import Mathlib.Data.List.Forall2
import Mathlib.Data.List.Pairwise

/-! Patterns over a text, as a backtracking engine reads them.

    A pattern sees the character before it, so it can ask about its neighbours at every place. What
    it takes from a text comes in the order in which the engine tries it, and the first is the
    match. A scan goes from left to right and cuts the text into the matches and the characters
    between them. -/

universe u

/-- `one`, `many` and `seq` are `[…]`, `[…]{least,}` and juxtaposition; `look` asks about the
    characters before and after a place, and takes nothing. -/
inductive Pattern (α : Type u) where
  | one (p : α → Bool)
  | look (q : Option α → Option α → Bool)
  | many (least : Nat) (p : α → Bool)
  | seq (first second : Pattern α)

namespace Pattern

variable {α : Type u}

/-- The character before what follows `w`. -/
def before (prev : Option α) (w : List α) : Option α := w.getLast?.or prev

/-- What a repetition can take, the longest first. -/
def runs (p : α → Bool) : List α → List (List α × List α)
  | [] => [([], [])]
  | c :: t =>
    if p c then (runs p t).map (fun x => (c :: x.1, x.2)) ++ [([], c :: t)] else [([], c :: t)]

/-- What a pattern can take from a text, and what is left, in the order of the engine. -/
def ends : Pattern α → Option α → List α → List (List α × List α)
  | one _, _, [] => []
  | one p, _, c :: t => if p c then [([c], t)] else []
  | look q, prev, t => if q prev t.head? then [([], t)] else []
  | many least p, _, t => (runs p t).filter fun x => least ≤ x.1.length
  | seq a b, prev, t => (a.ends prev t).flatMap fun x =>
      (b.ends (before prev x.1) x.2).map fun y => (x.1 ++ y.1, y.2)

/-- The match at a place. -/
def find (p : Pattern α) (prev : Option α) (t : List α) : Option (List α × List α) :=
  (p.ends prev t).head?

/-- One character of each class, in order. -/
def each : List (α → Bool) → Pattern α
  | [] => look fun _ _ => true
  | p :: ps => seq (one p) (each ps)

/-! ### What a pattern takes -/

/-- `w` fits the pattern, between `prev` and `rest`. -/
def Fits : Pattern α → Option α → List α → List α → Prop
  | one p, _, w, _ => ∃ c, p c = true ∧ w = [c]
  | look q, prev, w, rest => q prev rest.head? = true ∧ w = []
  | many least p, _, w, _ => least ≤ w.length ∧ ∀ c ∈ w, p c = true
  | seq a b, prev, w, rest =>
    ∃ u v, w = u ++ v ∧ a.Fits prev u (v ++ rest) ∧ b.Fits (before prev u) v rest

@[simp] theorem before_nil (prev : Option α) : before prev [] = prev := rfl

@[simp] theorem before_cons (prev : Option α) (c : α) (w : List α) :
    before prev (c :: w) = before (some c) w := by
  cases w with
  | nil => rfl
  | cons d w => simp [before, List.getLast?_cons]

theorem before_append (prev : Option α) (u v : List α) :
    before prev (u ++ v) = before (before prev u) v := by
  induction u generalizing prev with
  | nil => rfl
  | cons c u ih => rw [List.cons_append, before_cons, before_cons, ih]

theorem before_none (w : List α) : before none w = w.getLast? := Option.or_none

theorem before_of_ne_nil {w : List α} (h : w ≠ []) (prev : Option α) :
    before prev w = w.getLast? := by
  rw [before, List.getLast?_eq_some_getLast h, Option.some_or]

theorem mem_runs {p : α → Bool} {t : List α} {x : List α × List α} :
    x ∈ runs p t ↔ t = x.1 ++ x.2 ∧ ∀ c ∈ x.1, p c = true := by
  induction t generalizing x with
  | nil =>
    obtain ⟨u, v⟩ := x
    simp only [runs, List.mem_singleton, Prod.mk.injEq]
    constructor
    · rintro ⟨rfl, rfl⟩
      simp
    · rintro ⟨h, -⟩
      exact List.append_eq_nil_iff.mp h.symm
  | cons c t ih =>
    obtain ⟨u, v⟩ := x
    have hstop : (u, v) = ([], c :: t) → c :: t = u ++ v ∧ ∀ d ∈ u, p d = true := by
      rintro ⟨⟩
      simp
    rw [runs]
    split_ifs with hc
    · simp only [List.mem_append, List.mem_map, List.mem_singleton]
      constructor
      · rintro (⟨y, hy, hxy⟩ | h)
        · obtain ⟨ht, hall⟩ := ih.mp hy
          obtain ⟨rfl, rfl⟩ := Prod.mk.inj hxy
          exact ⟨by rw [ht, List.cons_append], List.forall_mem_cons.mpr ⟨hc, hall⟩⟩
        · exact hstop h
      · rintro ⟨ht, hall⟩
        cases u with
        | nil => exact Or.inr (by rw [show v = c :: t from ht.symm])
        | cons d u =>
          obtain ⟨rfl, rfl⟩ := List.cons.inj ht
          exact Or.inl ⟨(u, v), ih.mpr ⟨rfl, fun e he => hall e (List.mem_cons_of_mem _ he)⟩, rfl⟩
    · rw [List.mem_singleton]
      refine ⟨hstop, ?_⟩
      rintro ⟨ht, hall⟩
      cases u with
      | nil => rw [show v = c :: t from ht.symm]
      | cons d u =>
        obtain ⟨rfl, -⟩ := List.cons.inj ht
        exact absurd (hall _ List.mem_cons_self) hc

/-- What the engine tries is what fits. -/
theorem mem_ends {p : Pattern α} {prev : Option α} {t : List α} {x : List α × List α} :
    x ∈ p.ends prev t ↔ t = x.1 ++ x.2 ∧ p.Fits prev x.1 x.2 := by
  induction p generalizing prev t x with
  | one p =>
    obtain ⟨w, rest⟩ := x
    cases t with
    | nil =>
      simp only [ends, List.not_mem_nil, Fits, false_iff]
      rintro ⟨h, c, -, rfl⟩
      exact List.cons_ne_nil _ _ h.symm
    | cons d t =>
      simp only [ends, Fits]
      split_ifs with hd
      · rw [List.mem_singleton]
        constructor
        · rintro ⟨⟩
          exact ⟨rfl, d, hd, rfl⟩
        · rintro ⟨h, c, -, rfl⟩
          obtain ⟨rfl, rfl⟩ := List.cons.inj h
          rfl
      · simp only [List.not_mem_nil, false_iff]
        rintro ⟨h, c, hc, rfl⟩
        obtain ⟨rfl, -⟩ := List.cons.inj h
        exact hd hc
  | look q =>
    obtain ⟨w, rest⟩ := x
    simp only [ends, Fits]
    split_ifs with hq
    · rw [List.mem_singleton]
      constructor
      · rintro ⟨⟩
        exact ⟨rfl, hq, rfl⟩
      · rintro ⟨h, -, rfl⟩
        rw [h, List.nil_append]
    · simp only [List.not_mem_nil, false_iff]
      rintro ⟨h, hq', rfl⟩
      rw [h] at hq
      exact hq hq'
  | many least p =>
    simp only [ends, List.mem_filter, mem_runs, decide_eq_true_eq, Fits]
    constructor
    · rintro ⟨⟨ht, hall⟩, hleast⟩
      exact ⟨ht, hleast, hall⟩
    · rintro ⟨ht, hleast, hall⟩
      exact ⟨⟨ht, hall⟩, hleast⟩
  | seq a b iha ihb =>
    obtain ⟨w, rest⟩ := x
    simp only [ends, List.mem_flatMap, List.mem_map, Fits]
    constructor
    · rintro ⟨⟨u, r⟩, hu, ⟨v, s⟩, hv, hw⟩
      obtain ⟨rfl, hfirst⟩ := iha.mp hu
      obtain ⟨hr, hsecond⟩ := ihb.mp hv
      obtain ⟨rfl, rfl⟩ := Prod.mk.inj hw
      dsimp only at hr hfirst hsecond ⊢
      subst hr
      exact ⟨(List.append_assoc ..).symm, u, v, rfl, hfirst, hsecond⟩
    · rintro ⟨rfl, u, v, rfl, hfirst, hsecond⟩
      exact ⟨(u, v ++ rest), iha.mpr ⟨List.append_assoc .., hfirst⟩, (v, rest),
        ihb.mpr ⟨rfl, hsecond⟩, rfl⟩

theorem fits_of_find {p : Pattern α} {prev : Option α} {t w rest : List α}
    (h : p.find prev t = some (w, rest)) : t = w ++ rest ∧ p.Fits prev w rest :=
  mem_ends.mp (List.mem_of_head? h)

theorem exists_find {p : Pattern α} {prev : Option α} {w rest : List α}
    (h : p.Fits prev w rest) : ∃ m, p.find prev (w ++ rest) = some m :=
  Option.isSome_iff_exists.mp
    (List.isSome_head?.mpr (List.ne_nil_of_mem (mem_ends (x := (w, rest)).mpr ⟨rfl, h⟩)))

theorem fits_each {ps : List (α → Bool)} {prev : Option α} {w rest : List α} :
    (each ps).Fits prev w rest ↔ List.Forall₂ (fun p c => p c = true) ps w := by
  induction ps generalizing prev w with
  | nil =>
    rw [each, Fits, List.forall₂_nil_left_iff]
    exact and_iff_right rfl
  | cons p ps ih =>
    rw [each, Fits, List.forall₂_cons_left_iff]
    constructor
    · rintro ⟨u, v, rfl, ⟨c, hc, rfl⟩, hv⟩
      exact ⟨c, v, hc, ih.mp hv, rfl⟩
    · rintro ⟨c, v, hc, hv, rfl⟩
      exact ⟨[c], v, rfl, ⟨c, hc, rfl⟩, ih.mpr hv⟩

/-! ### The longest repetition first -/

theorem runs_sorted (p : α → Bool) (t : List α) :
    (runs p t).Pairwise fun x y => y.1.length < x.1.length := by
  induction t with
  | nil => simp [runs]
  | cons c t ih =>
    rw [runs]
    split_ifs with hc
    · rw [List.pairwise_append, List.pairwise_map]
      refine ⟨ih.imp fun h => Nat.succ_lt_succ h, List.pairwise_singleton _ _, ?_⟩
      simp only [List.mem_map, List.mem_singleton]
      rintro _ ⟨x, -, rfl⟩ _ rfl
      exact Nat.succ_pos _
    · exact List.pairwise_singleton _ _

/-- The match of a sequence goes through the first thing its head can take that leaves a match for
    the rest. -/
theorem find_seq {a b : Pattern α} {prev : Option α} {t w rest : List α}
    (h : (seq a b).find prev t = some (w, rest)) :
    ∃ u v, w = u ++ v ∧ t = u ++ (v ++ rest) ∧ a.Fits prev u (v ++ rest) ∧
      b.find (before prev u) (v ++ rest) = some (v, rest) ∧
      ∃ earlier later, a.ends prev t = earlier ++ (u, v ++ rest) :: later ∧
        ∀ x ∈ earlier, b.find (before prev x.1) x.2 = none := by
  rw [find, ends, List.head?_flatMap] at h
  obtain ⟨earlier, ⟨u, r⟩, later, hlist, hhead, hnone⟩ := List.findSome?_eq_some_iff.mp h
  rw [List.head?_map, Option.map_eq_some_iff] at hhead
  obtain ⟨⟨v, s⟩, hfind, hw⟩ := hhead
  obtain ⟨rfl, rfl⟩ := Prod.mk.inj hw
  have hmem : (u, r) ∈ a.ends prev t := by
    rw [hlist]
    exact List.mem_append_right _ List.mem_cons_self
  obtain ⟨ht, hfirst⟩ := mem_ends.mp hmem
  obtain ⟨hr, -⟩ := fits_of_find (p := b) hfind
  dsimp only at ht hr hfirst hfind
  subst hr
  refine ⟨u, v, rfl, ht, hfirst, hfind, earlier, later, hlist, fun x hx => ?_⟩
  have hempty := hnone x hx
  rwa [List.head?_map, Option.map_eq_none_iff] at hempty

/-- A repetition is as long as what follows it lets it be. -/
theorem find_many {p : α → Bool} {least : Nat} {b : Pattern α} {prev : Option α}
    {t w rest : List α} (h : (seq (many least p) b).find prev t = some (w, rest)) :
    ∃ u v, w = u ++ v ∧ t = u ++ (v ++ rest) ∧ (least ≤ u.length ∧ ∀ c ∈ u, p c = true) ∧
      b.find (before prev u) (v ++ rest) = some (v, rest) ∧
      ∀ u' v' r', t = u' ++ (v' ++ r') → least ≤ u'.length → (∀ c ∈ u', p c = true) →
        b.Fits (before prev u') v' r' → u'.length ≤ u.length := by
  obtain ⟨u, v, hw, ht, hfirst, hfind, earlier, later, hlist, hnone⟩ := find_seq h
  refine ⟨u, v, hw, ht, hfirst, hfind, ?_⟩
  intro u' v' r' ht' hleast hall hfits
  have hmem : (u', v' ++ r') ∈ (many least p).ends prev t := mem_ends.mpr ⟨ht', hleast, hall⟩
  have hsorted : ((many least p).ends prev t).Pairwise fun x y => y.1.length < x.1.length :=
    (runs_sorted p t).filter _
  rw [hlist] at hmem hsorted
  rcases List.mem_append.mp hmem with hearlier | hlater
  · obtain ⟨m, hm⟩ := exists_find hfits
    rw [hnone _ hearlier] at hm
    cases hm
  · rcases List.mem_cons.mp hlater with heq | hafter
    · exact Nat.le_of_eq (congrArg List.length (Prod.mk.inj heq).1)
    · have hlt : u'.length < u.length :=
        (List.pairwise_cons.mp (List.pairwise_append.mp hsorted).2.1).1 _ hafter
      omega

/-! ### Scanning -/

/-- A character that is passed over, or a match. -/
inductive Piece (α : Type u) where
  | text (c : α)
  | found (w : List α)
  deriving DecidableEq

def Piece.source : Piece α → List α
  | .text c => [c]
  | .found w => w

def Piece.found? : Piece α → Option (List α)
  | .text _ => none
  | .found w => some w

/-- The text that was cut. -/
def source (ps : List (Piece α)) : List α := ps.flatMap Piece.source

/-- The text with a marker in the place of each match. -/
def substitute (marker : List α) (ps : List (Piece α)) : List α :=
  ps.flatMap fun
    | .text c => [c]
    | .found _ => marker

/-- The matches, in order. -/
def matches? (ps : List (Piece α)) : List (List α) := ps.filterMap Piece.found?

/-- Left to right: the match at a place is taken, and where there is none one character is passed
    over. For patterns that take at least one character. -/
def scanFrom (p : Pattern α) : Nat → Option α → List α → List (Piece α)
  | 0, _, _ => []
  | _ + 1, _, [] => []
  | n + 1, prev, c :: t =>
    match p.find prev (c :: t) with
    | some (d :: w, rest) => .found (d :: w) :: scanFrom p n (before prev (d :: w)) rest
    | _ => .text c :: scanFrom p n (some c) t

def scan (p : Pattern α) (t : List α) : List (Piece α) := scanFrom p t.length none t

/-- A pattern that takes at least one character. -/
def Consumes (p : Pattern α) : Prop := ∀ ⦃prev w rest⦄, p.Fits prev w rest → w ≠ []

/-- `ps` cuts the text that follows `prev` at the matches of a pattern. -/
inductive Scans (p : Pattern α) : Option α → List α → List (Piece α) → Prop
  | done {prev : Option α} : Scans p prev [] []
  | skip {prev : Option α} {c : α} {t : List α} {ps : List (Piece α)}
      (hnone : p.find prev (c :: t) = none) (rest : Scans p (some c) t ps) :
      Scans p prev (c :: t) (.text c :: ps)
  | take {prev : Option α} {w rest : List α} {ps : List (Piece α)}
      (hfind : p.find prev (w ++ rest) = some (w, rest)) (hne : w ≠ [])
      (next : Scans p (before prev w) rest ps) : Scans p prev (w ++ rest) (.found w :: ps)

theorem scanFrom_scans {p : Pattern α} (hp : p.Consumes) {n : Nat} {prev : Option α} {t : List α}
    (hlength : t.length ≤ n) : Scans p prev t (scanFrom p n prev t) := by
  induction n generalizing prev t with
  | zero =>
    rw [List.length_eq_zero_iff.mp (Nat.le_zero.mp hlength)]
    exact .done
  | succ n ih =>
    cases t with
    | nil => exact .done
    | cons c t =>
      rw [List.length_cons] at hlength
      rw [scanFrom]
      cases hfind : p.find prev (c :: t) with
      | none => exact .skip hfind (ih (by omega))
      | some m =>
        obtain ⟨w, rest⟩ := m
        obtain ⟨ht, hfits⟩ := fits_of_find hfind
        cases w with
        | nil => exact absurd rfl (hp hfits)
        | cons d w =>
          have hrest : rest.length ≤ n := by
            have := congrArg List.length ht
            simp only [List.length_cons, List.length_append] at this
            omega
          rw [ht] at hfind ⊢
          exact .take hfind (List.cons_ne_nil _ _) (ih hrest)

theorem scan_scans {p : Pattern α} (hp : p.Consumes) (t : List α) : Scans p none t (scan p t) :=
  scanFrom_scans hp (Nat.le_refl _)

/-! ### Pieces -/

@[simp] theorem source_nil : source ([] : List (Piece α)) = [] := rfl

@[simp] theorem source_text (c : α) (ps : List (Piece α)) :
    source (.text c :: ps) = c :: source ps := rfl

@[simp] theorem source_found (w : List α) (ps : List (Piece α)) :
    source (.found w :: ps) = w ++ source ps := rfl

@[simp] theorem source_append (ps qs : List (Piece α)) :
    source (ps ++ qs) = source ps ++ source qs := List.flatMap_append

@[simp] theorem source_map_text (w : List α) : source (w.map Piece.text) = w := by
  induction w with
  | nil => rfl
  | cons c w ih => rw [List.map_cons, source_text, ih]

@[simp] theorem substitute_nil (marker : List α) : substitute marker [] = [] := rfl

@[simp] theorem substitute_text (marker : List α) (c : α) (ps : List (Piece α)) :
    substitute marker (.text c :: ps) = c :: substitute marker ps := rfl

@[simp] theorem substitute_found (marker : List α) (w : List α) (ps : List (Piece α)) :
    substitute marker (.found w :: ps) = marker ++ substitute marker ps := rfl

@[simp] theorem substitute_append (marker : List α) (ps qs : List (Piece α)) :
    substitute marker (ps ++ qs) = substitute marker ps ++ substitute marker qs :=
  List.flatMap_append

@[simp] theorem substitute_map_text (marker w : List α) :
    substitute marker (w.map Piece.text) = w := by
  induction w with
  | nil => rfl
  | cons c w ih => rw [List.map_cons, substitute_text, ih]

/-- No match is empty. -/
def Solid (ps : List (Piece α)) : Prop := ∀ w, .found w ∈ ps → w ≠ []

theorem Solid.eq_nil {ps : List (Piece α)} (h : Solid ps) (hsource : source ps = []) : ps = [] := by
  cases ps with
  | nil => rfl
  | cons x ps =>
    cases x with
    | text c => cases hsource
    | found w =>
      rw [source_found] at hsource
      exact absurd (List.append_eq_nil_iff.mp hsource).1 (h w List.mem_cons_self)

theorem Solid.left {ps qs : List (Piece α)} (h : Solid (ps ++ qs)) : Solid ps :=
  fun w hw => h w (List.mem_append_left _ hw)

theorem Solid.right {ps qs : List (Piece α)} (h : Solid (ps ++ qs)) : Solid qs :=
  fun w hw => h w (List.mem_append_right _ hw)

/-- A place of the text lies between two pieces, or inside a match. -/
theorem exists_cut {ps : List (Piece α)} {u v : List α} (h : source ps = u ++ v) :
    (∃ qs rs, ps = qs ++ rs ∧ source qs = u ∧ source rs = v) ∨
      ∃ qs w₁ w₂ rs, ps = qs ++ .found (w₁ ++ w₂) :: rs ∧ w₁ ≠ [] ∧ w₂ ≠ [] ∧
        source qs ++ w₁ = u ∧ w₂ ++ source rs = v := by
  induction ps generalizing u with
  | nil =>
    obtain ⟨rfl, rfl⟩ := List.append_eq_nil_iff.mp h.symm
    exact Or.inl ⟨[], [], rfl, rfl, rfl⟩
  | cons x ps ih =>
    -- the rest of the text is cut at the same place, one piece later
    have hlater : ∀ u', source ps = u' ++ v → u = x.source ++ u' →
        (∃ qs rs, x :: ps = qs ++ rs ∧ source qs = u ∧ source rs = v) ∨
          ∃ qs w₁ w₂ rs, x :: ps = qs ++ .found (w₁ ++ w₂) :: rs ∧ w₁ ≠ [] ∧ w₂ ≠ [] ∧
            source qs ++ w₁ = u ∧ w₂ ++ source rs = v := by
      rintro u' hu' rfl
      rcases ih hu' with ⟨qs, rs, rfl, rfl, hrs⟩ | ⟨qs, w₁, w₂, rs, rfl, h₁, h₂, rfl, hrs⟩
      · exact Or.inl ⟨x :: qs, rs, rfl, rfl, hrs⟩
      · exact Or.inr ⟨x :: qs, w₁, w₂, rs, rfl, h₁, h₂,
          (List.append_assoc x.source (source qs) w₁), hrs⟩
    have hsource : x.source ++ source ps = u ++ v := h
    rcases List.append_eq_append_iff.mp hsource with ⟨u', hu, hps⟩ | ⟨w₂, hx, hv⟩
    · exact hlater u' hps hu
    · by_cases hw₂ : w₂ = []
      · subst hw₂
        rw [List.append_nil] at hx
        exact hlater [] (by simpa using hv.symm) (by simpa using hx.symm)
      · by_cases hu : u = []
        · exact Or.inl ⟨[], x :: ps, rfl, hu.symm, by rw [hu] at h; exact h⟩
        · cases x with
          | text c =>
            have hlength := congrArg List.length hx
            have hpos := List.length_pos_iff.mpr hw₂
            have hpos' := List.length_pos_iff.mpr hu
            simp only [Piece.source, List.length_append, List.length_cons, List.length_nil]
              at hlength
            omega
          | found w =>
            rw [show w = u ++ w₂ from hx]
            exact Or.inr ⟨[], u, w₂, ps, rfl, hu, hw₂, rfl, hv.symm⟩

/-- Of two cuts of the same pieces, the one whose text is not longer comes first. -/
theorem Solid.extends {qs rs qs' rs' : List (Piece α)} (hsolid : Solid (qs ++ rs))
    (h : qs ++ rs = qs' ++ rs') (hle : (source qs).length ≤ (source qs').length) :
    ∃ ds, qs' = qs ++ ds := by
  rcases List.append_eq_append_iff.mp h with ⟨ds, hds, -⟩ | ⟨ds, hds, -⟩
  · exact ⟨ds, hds⟩
  · have hnil : ds = [] := by
      have hcut : Solid (qs' ++ ds) := hds ▸ hsolid.left
      refine hcut.right.eq_nil (List.length_eq_zero_iff.mp ?_)
      rw [hds, source_append, List.length_append] at hle
      omega
    exact ⟨[], by rw [hds, hnil, List.append_nil, List.append_nil]⟩

theorem Solid.cut_unique {qs rs qs' rs' : List (Piece α)} (hsolid : Solid (qs ++ rs))
    (h : qs ++ rs = qs' ++ rs') (hsource : source qs = source qs') : qs = qs' := by
  obtain ⟨ds, rfl⟩ := hsolid.extends h (Nat.le_of_eq (congrArg List.length hsource))
  rw [h] at hsolid
  have hnil : ds = [] := hsolid.left.right.eq_nil (by simpa using hsource)
  rw [hnil, List.append_nil]

/-- A stretch at the head of the text is passed over, or a match begins in it. -/
theorem passed_or_found {ps : List (Piece α)} {v rest : List α} (h : source ps = v ++ rest) :
    (∃ rs, ps = v.map Piece.text ++ rs ∧ source rs = rest) ∨
      ∃ v₁ v₂ w rs, v = v₁ ++ v₂ ∧ v₂ ≠ [] ∧ ps = v₁.map Piece.text ++ .found w :: rs := by
  induction v generalizing ps with
  | nil => exact Or.inl ⟨ps, rfl, h⟩
  | cons c v ih =>
    cases ps with
    | nil => cases h
    | cons x ps =>
      cases x with
      | text d =>
        obtain ⟨rfl, hps⟩ := List.cons.inj h
        rcases ih hps with ⟨rs, rfl, hrs⟩ | ⟨v₁, v₂, w, rs, rfl, hv₂, rfl⟩
        · exact Or.inl ⟨rs, rfl, hrs⟩
        · exact Or.inr ⟨d :: v₁, v₂, w, rs, rfl, hv₂, rfl⟩
      | found w => exact Or.inr ⟨[], c :: v, w, ps, rfl, List.cons_ne_nil _ _, rfl⟩

/-! ### Occurrences that a marker leaves -/

section Marker

variable {marker : List α}

theorem passed_of_substitute {ps : List (Piece α)} {w b : List α} (hmarker : marker ≠ [])
    (h : substitute marker ps = w ++ b) (hclear : ∀ c ∈ w, c ∉ marker) :
    ∃ rs, ps = w.map Piece.text ++ rs ∧ substitute marker rs = b := by
  induction w generalizing ps with
  | nil => exact ⟨ps, rfl, h⟩
  | cons c w ih =>
    cases ps with
    | nil => cases h
    | cons x ps =>
      cases x with
      | text d =>
        obtain ⟨rfl, hps⟩ := List.cons.inj h
        obtain ⟨rs, rfl, hrs⟩ := ih hps fun e he => hclear e (List.mem_cons_of_mem _ he)
        exact ⟨rs, rfl, hrs⟩
      | found m =>
        rw [substitute_found] at h
        obtain ⟨d, marker', rfl⟩ := List.exists_cons_of_ne_nil hmarker
        obtain ⟨rfl, -⟩ := List.cons.inj h
        exact absurd List.mem_cons_self (hclear d List.mem_cons_self)

/-- What occurs in the marked text and has no character of the marker occurs between the
    matches. -/
theorem passed_of_occurs {ps : List (Piece α)} {a w b : List α} (hmarker : marker ≠ [])
    (h : substitute marker ps = a ++ (w ++ b)) (hw : w ≠ []) (hclear : ∀ c ∈ w, c ∉ marker) :
    ∃ qs rs, ps = qs ++ (w.map Piece.text ++ rs) ∧ substitute marker qs = a ∧
      substitute marker rs = b := by
  induction ps generalizing a with
  | nil => exact absurd (List.append_eq_nil_iff.mp (List.append_eq_nil_iff.mp h.symm).2).1 hw
  | cons x ps ih =>
    by_cases ha : a = []
    · subst ha
      obtain ⟨rs, hps, hrs⟩ := passed_of_substitute (w := w) hmarker h hclear
      exact ⟨[], rs, hps, rfl, hrs⟩
    · cases x with
      | text d =>
        obtain ⟨c, a, rfl⟩ := List.exists_cons_of_ne_nil ha
        obtain ⟨rfl, hps⟩ := List.cons.inj h
        obtain ⟨qs, rs, rfl, rfl, hrs⟩ := ih hps
        exact ⟨.text d :: qs, rs, rfl, rfl, hrs⟩
      | found m =>
        rw [substitute_found] at h
        rcases List.append_eq_append_iff.mp h with ⟨a', rfl, hps⟩ | ⟨c', hmark, hrest⟩
        · obtain ⟨qs, rs, rfl, rfl, hrs⟩ := ih hps
          exact ⟨.found m :: qs, rs, rfl, rfl, hrs⟩
        · -- otherwise the first character of `w` would be in the marker
          cases c' with
          | nil =>
            obtain ⟨qs, rs, rfl, hqs, hrs⟩ := ih (a := []) (by simpa using hrest.symm)
            refine ⟨.found m :: qs, rs, rfl, ?_, hrs⟩
            rw [substitute_found, hqs, hmark]
            simp
          | cons d c' =>
            obtain ⟨e, w, rfl⟩ := List.exists_cons_of_ne_nil hw
            obtain ⟨rfl, -⟩ := List.cons.inj hrest
            refine absurd ?_ (hclear e List.mem_cons_self)
            rw [hmark]
            exact List.mem_append_right _ List.mem_cons_self

/-- The characters beside a place stay as they are where no match ends or begins. -/
theorem getLast_substitute {qs : List (Piece α)} (h : ∀ qs' m, qs ≠ qs' ++ [.found m]) :
    (substitute marker qs).getLast? = (source qs).getLast? := by
  rcases List.eq_nil_or_concat' qs with rfl | ⟨qs, x, rfl⟩
  · rfl
  · cases x with
    | text c => simp
    | found m => exact absurd rfl (h qs m)

theorem head_substitute {rs : List (Piece α)} (h : ∀ m rs', rs ≠ .found m :: rs') :
    (substitute marker rs).head? = (source rs).head? := by
  cases rs with
  | nil => rfl
  | cons x rs =>
    cases x with
    | text c => rfl
    | found m => exact absurd rfl (h m rs)

theorem exists_found {ps : List (Piece α)} (h : matches? ps ≠ []) :
    ∃ qs m rs, ps = qs ++ .found m :: rs := by
  obtain ⟨m, hm⟩ := List.exists_mem_of_ne_nil _ h
  obtain ⟨x, hx, hfound⟩ := List.mem_filterMap.mp hm
  cases x with
  | text c => cases hfound
  | found w =>
    obtain ⟨qs, rs, rfl⟩ := List.append_of_mem hx
    exact ⟨qs, w, rs, rfl⟩

theorem substitute_of_none {ps : List (Piece α)} (h : matches? ps = []) :
    substitute marker ps = source ps := by
  induction ps with
  | nil => rfl
  | cons x ps ih =>
    cases x with
    | text c => rw [substitute_text, source_text, ih h]
    | found m => cases h

end Marker

/-! ### What a scan leaves and takes -/

namespace Scans

variable {p : Pattern α} {prev : Option α} {t : List α}

theorem source_eq {ps : List (Piece α)} (h : Scans p prev t ps) : source ps = t := by
  induction h with
  | done => rfl
  | skip _ _ ih => rw [source_text, ih]
  | take _ _ _ ih => rw [source_found, ih]

theorem solid {ps : List (Piece α)} (h : Scans p prev t ps) : Solid ps := by
  induction h with
  | done => nofun
  | skip _ _ ih =>
    intro w hw
    rcases List.mem_cons.mp hw with heq | hlater
    · cases heq
    · exact ih w hlater
  | take _ hne _ ih =>
    intro w hw
    rcases List.mem_cons.mp hw with heq | hlater
    · obtain rfl := Piece.found.inj heq
      exact hne
    · exact ih w hlater

/-- Between two pieces the scan starts anew. -/
theorem of_append {qs rs : List (Piece α)} (h : Scans p prev t (qs ++ rs)) :
    Scans p (before prev (source qs)) (source rs) rs := by
  induction qs generalizing prev t with
  | nil =>
    rw [← h.source_eq] at h
    exact h
  | cons x qs ih =>
    rw [List.cons_append] at h
    cases h with
    | skip _ rest =>
      rw [source_text, before_cons]
      exact ih rest
    | take _ _ next =>
      rw [source_found, before_append]
      exact ih next

/-- Where a character is passed over there is no match. -/
theorem find_text {qs rs : List (Piece α)} {c : α} (h : Scans p prev t (qs ++ .text c :: rs)) :
    p.find (before prev (source qs)) (c :: source rs) = none := by
  have hlater := h.of_append
  generalize hsource : source (.text c :: rs) = t' at hlater
  cases hlater with
  | skip hnone rest =>
    obtain ⟨-, rfl⟩ := List.cons.inj hsource
    exact hnone

/-- What is taken is the match. -/
theorem find_found {qs rs : List (Piece α)} {w : List α}
    (h : Scans p prev t (qs ++ .found w :: rs)) :
    p.find (before prev (source qs)) (w ++ source rs) = some (w, source rs) := by
  have hlater := h.of_append
  generalize hsource : source (.found w :: rs) = t' at hlater
  cases hlater with
  | take hfind _ next =>
    rw [next.source_eq]
    exact hfind

theorem fits_found {qs rs : List (Piece α)} {w : List α}
    (h : Scans p prev t (qs ++ .found w :: rs)) :
    p.Fits (before prev (source qs)) w (source rs) :=
  (fits_of_find h.find_found).2

/-- Something is taken at every place between two pieces where the pattern fits. -/
theorem taken_of_fits {qs rs : List (Piece α)} (h : Scans p prev t (qs ++ rs)) {w rest : List α}
    (hw : w ≠ []) (hsource : source rs = w ++ rest)
    (hfits : p.Fits (before prev (source qs)) w rest) :
    ∃ m rs', rs = .found m :: rs' := by
  cases rs with
  | nil => exact absurd (List.append_eq_nil_iff.mp hsource.symm).1 hw
  | cons x rs =>
    cases x with
    | found m => exact ⟨m, rs, rfl⟩
    | text c =>
      obtain ⟨m, hm⟩ := exists_find hfits
      rw [← hsource, source_text, h.find_text] at hm
      cases hm

end Scans

/-! ### Places -/

/-- A part of a text, and what stands on either side. -/
structure Place (α : Type u) where
  before : List α
  here : List α
  after : List α
  deriving DecidableEq

def Place.text (p : Place α) : List α := p.before ++ (p.here ++ p.after)

/-- Where the matches are, after `past`. -/
def placesFrom (past : List α) : List (Piece α) → List (Place α)
  | [] => []
  | .text c :: ps => placesFrom (past ++ [c]) ps
  | .found w :: ps => ⟨past, w, source ps⟩ :: placesFrom (past ++ w) ps

def places (ps : List (Piece α)) : List (Place α) := placesFrom [] ps

theorem map_here_placesFrom (past : List α) (ps : List (Piece α)) :
    (placesFrom past ps).map Place.here = matches? ps := by
  induction ps generalizing past with
  | nil => rfl
  | cons x ps ih =>
    cases x with
    | text c => exact ih _
    | found w => exact congrArg (w :: ·) (ih _)

theorem mem_placesFrom {past : List α} {ps : List (Piece α)} {p : Place α} :
    p ∈ placesFrom past ps ↔ ∃ qs rs, ps = qs ++ .found p.here :: rs ∧
      p.before = past ++ source qs ∧ p.after = source rs := by
  induction ps generalizing past with
  | nil => simp [placesFrom]
  | cons x ps ih =>
    have hlater : (∃ qs rs, ps = qs ++ .found p.here :: rs ∧
        p.before = (past ++ x.source) ++ source qs ∧ p.after = source rs) →
        ∃ qs rs, x :: ps = qs ++ .found p.here :: rs ∧ p.before = past ++ source qs ∧
          p.after = source rs := by
      rintro ⟨qs, rs, rfl, hbefore, hafter⟩
      exact ⟨x :: qs, rs, rfl, by rw [hbefore, List.append_assoc]; rfl, hafter⟩
    have hfirst : ∀ {qs rs}, x :: ps = qs ++ .found p.here :: rs → qs ≠ [] →
        p.before = past ++ source qs → ∃ qs' , ps = qs' ++ .found p.here :: rs ∧
          p.before = (past ++ x.source) ++ source qs' := by
      intro qs rs hps hne hbefore
      obtain ⟨y, qs, rfl⟩ := List.exists_cons_of_ne_nil hne
      obtain ⟨rfl, rfl⟩ := List.cons.inj hps
      exact ⟨qs, rfl, by rw [hbefore, List.append_assoc]; rfl⟩
    cases x with
    | text c =>
      rw [placesFrom, ih]
      refine ⟨hlater, ?_⟩
      rintro ⟨qs, rs, hps, hbefore, hafter⟩
      obtain ⟨qs', hps', hbefore'⟩ := hfirst hps (by rintro rfl; cases hps) hbefore
      exact ⟨qs', rs, hps', hbefore', hafter⟩
    | found w =>
      rw [placesFrom, List.mem_cons, ih]
      constructor
      · rintro (rfl | h)
        · exact ⟨[], ps, rfl, (List.append_nil past).symm, rfl⟩
        · exact hlater h
      · rintro ⟨qs, rs, hps, hbefore, hafter⟩
        by_cases hne : qs = []
        · subst hne
          obtain ⟨hw, rfl⟩ := List.cons.inj hps
          left
          obtain ⟨before, here, after⟩ := p
          dsimp only at hw hbefore hafter
          rw [hbefore, hafter, ← Piece.found.inj hw, source_nil, List.append_nil]
        · obtain ⟨qs', hps', hbefore'⟩ := hfirst hps hne hbefore
          exact Or.inr ⟨qs', rs, hps', hbefore', hafter⟩

theorem mem_places {ps : List (Piece α)} {p : Place α} :
    p ∈ places ps ↔ ∃ qs rs, ps = qs ++ .found p.here :: rs ∧ p.before = source qs ∧
      p.after = source rs := mem_placesFrom

/-- The places of two matches are apart, and in order. -/
theorem placesFrom_apart {ps : List (Piece α)} (past : List α) :
    (placesFrom past ps).Pairwise fun p q =>
      p.before.length + p.here.length ≤ q.before.length := by
  induction ps generalizing past with
  | nil => exact .nil
  | cons x ps ih =>
    cases x with
    | text c => exact ih _
    | found w =>
      rw [placesFrom, List.pairwise_cons]
      refine ⟨fun q hq => ?_, ih _⟩
      obtain ⟨qs, rs, -, hbefore, -⟩ := mem_placesFrom.mp hq
      simp only [hbefore, List.length_append]
      omega

theorem apart_of_ne {ps : List (Piece α)} {p q : Place α} (hp : p ∈ places ps)
    (hq : q ∈ places ps) (hne : p ≠ q) :
    p.before.length + p.here.length ≤ q.before.length ∨
      q.before.length + q.here.length ≤ p.before.length := by
  let apart := fun p q : Place α => p.before.length + p.here.length ≤ q.before.length ∨
    q.before.length + q.here.length ≤ p.before.length
  have hsymm : Std.Symm apart := ⟨fun _ _ => Or.symm⟩
  have hpairs : (places ps).Pairwise apart := (placesFrom_apart []).imp Or.inl
  exact hpairs.forall hp hq hne

theorem Solid.places_sorted {ps : List (Piece α)} (h : Solid ps) :
    (places ps).Pairwise fun p q => p.before.length < q.before.length := by
  refine (placesFrom_apart []).imp_of_mem fun {p q} hp _ hle => ?_
  obtain ⟨qs, rs, rfl, -, -⟩ := mem_places.mp hp
  have hpos := List.length_pos_iff.mpr (h p.here (by simp))
  omega

/-- A list that is sorted by a key is known from its members. -/
theorem eq_of_sorted_of_mem {β : Type u} {key : β → Nat} {l l' : List β}
    (hl : l.Pairwise fun a b => key a < key b) (hl' : l'.Pairwise fun a b => key a < key b)
    (h : ∀ x, x ∈ l ↔ x ∈ l') : l = l' := by
  have hnodup : ∀ {l : List β}, l.Pairwise (fun a b => key a < key b) → l.Nodup := by
    intro l hl
    refine List.Pairwise.imp ?_ hl
    rintro a _ hlt rfl
    exact Nat.lt_irrefl _ hlt
  have hperm : l.Perm l' := (List.perm_ext_iff_of_nodup (hnodup hl) (hnodup hl')).mpr h
  exact hperm.eq_of_pairwise (fun a b _ _ hab hba => absurd hab (Nat.lt_asymm hba)) hl hl'

end Pattern
