import AfterSales.Application.Operations
import AfterSales.Lib.Pattern

/-! Whether the package that a message is about is designated or guessed.

    A package is designated by its id or tracking number, or by an ordinal or a label with its
    number, where these are not cut out of a longer token. The rules look for substrings, and take
    the first that they find. -/

namespace AfterSales

open Pattern Interleave

/-! ### Designations -/

/-- The characters of ids, tracking numbers, numbers and Latin words. -/
def isTokenChar (c : Char) : Bool := c.isAlphanum || c = '-' || c = '_'

/-- What stands at a place is not cut out of a longer token. -/
def IsWhole (p : Place Char) : Prop :=
  (p.before.getLast?.any isTokenChar && p.here.head?.any isTokenChar) = false ∧
    (p.here.getLast?.any isTokenChar && p.after.head?.any isTokenChar) = false

/-- A text occurs in a message. -/
def Occurs (text w : List Char) : Prop := ∃ p : Place Char, p.text = text ∧ p.here = w

/-- It occurs as a whole token. -/
def OccursWhole (text w : List Char) : Prop :=
  ∃ p : Place Char, p.text = text ∧ p.here = w ∧ IsWhole p

def numerals : List (Char × Nat) :=
  [('一', 1), ('二', 2), ('三', 3), ('四', 4), ('1', 1), ('2', 2), ('3', 3), ('4', 4)]

def measureWords : List String := ["个", "件", "包裹"]

def packageWords : List String := ["包裹", "parcel", "package"]

def labelTokens : List (Char × Nat) :=
  [('a', 1), ('b', 2), ('c', 3), ('1', 1), ('2', 2), ('3', 3)]

/-- An ordinal: `第`, a numeral and a measure word, with white space between them. -/
def IsOrdinal (w : List Char) (n : Nat) : Prop :=
  ∃ a d b, ∃ m ∈ measureWords, w = '第' :: (a ++ d :: (b ++ m.toList)) ∧
    (∀ c ∈ a, isSpace c = true) ∧ numerals.lookup d = some n ∧ ∀ c ∈ b, isSpace c = true

/-- A label: a word for a package and a letter or digit, with white space between them. -/
def IsLabel (w : List Char) (n : Nat) : Prop :=
  ∃ m ∈ packageWords, ∃ a t, w = m.toList ++ (a ++ [t]) ∧ (∀ c ∈ a, isSpace c = true) ∧
    labelTokens.lookup t = some n

/-- An ordinal or a label at a place of the message. -/
def Mentions (text : List Char) (p : Place Char) (n : Nat) : Prop :=
  p.text = text ∧ (IsOrdinal p.here n ∨ IsLabel p.here n)

/-- The first of its kind in the message has the number. -/
def Leftmost (kind : List Char → Nat → Prop) (text : List Char) (n : Nat) : Prop :=
  ∃ p : Place Char, p.text = text ∧ kind p.here n ∧
    ∀ (q : Place Char) (m : Nat), q.text = text → kind q.here m →
      p.before.length ≤ q.before.length

/-- The number that is read first: that of the first ordinal, else that of the first label. -/
def ReadFirst (text : List Char) (n : Nat) : Prop :=
  Leftmost IsOrdinal text n ∨
    (∀ (p : Place Char) (m : Nat), p.text = text → ¬ IsOrdinal p.here m) ∧ Leftmost IsLabel text n

/-- There is one ordinal or label, and it is not cut out of a longer token. -/
def OnlyMention (text : List Char) : Prop :=
  ∃ p, IsWhole p ∧ (∃ n, Mentions text p n) ∧ ∀ q m, Mentions text q m → q = p

/-! ### The rules and what they look for -/

theorem firstTail_none {α : Type} {f : List Char → Option α} {l : List Char} :
    l.tails.findSome? f = none ↔ ∀ u v, l = u ++ v → f v = none := by
  rw [List.findSome?_eq_none_iff]
  constructor
  · rintro h u v rfl
    exact h v ((List.mem_tails _ _).mpr (List.suffix_append u v))
  · intro h v hv
    obtain ⟨u, rfl⟩ := (List.mem_tails _ _).mp hv
    exact h u v rfl

/-- The first tail that `f` takes. -/
theorem firstTail_some {α : Type} {f : List Char → Option α} {l : List Char} {x : α} :
    l.tails.findSome? f = some x ↔ ∃ u v, l = u ++ v ∧ f v = some x ∧
      ∀ u' v', l = u' ++ v' → u'.length < u.length → f v' = none := by
  induction l with
  | nil =>
    rw [List.tails, List.findSome?_singleton]
    constructor
    · intro h
      exact ⟨[], [], rfl, h, fun _ _ _ hlt => absurd hlt (Nat.not_lt_zero _)⟩
    · rintro ⟨u, v, huv, h, -⟩
      obtain ⟨rfl, rfl⟩ := List.append_eq_nil_iff.mp huv.symm
      exact h
  | cons c l ih =>
    rw [List.tails_cons, List.findSome?_cons]
    cases hc : f (c :: l) with
    | some y =>
      constructor
      · intro h
        exact ⟨[], c :: l, rfl, hc.trans h, fun _ _ _ hlt => absurd hlt (Nat.not_lt_zero _)⟩
      · rintro ⟨u, v, huv, h, hfirst⟩
        cases u with
        | nil =>
          rw [← show c :: l = v from huv, hc] at h
          exact h
        | cons d u =>
          have := hfirst [] (c :: l) rfl (by simp)
          rw [hc] at this
          cases this
    | none =>
      refine ih.trans ⟨?_, ?_⟩
      · rintro ⟨u, v, rfl, h, hfirst⟩
        refine ⟨c :: u, v, rfl, h, fun u' v' hcut hlt => ?_⟩
        cases u' with
        | nil => rw [← show c :: (u ++ v) = v' from hcut]; exact hc
        | cons d u' =>
          exact hfirst u' v' (List.cons.inj hcut).2 (Nat.lt_of_succ_lt_succ hlt)
      · rintro ⟨u, v, huv, h, hfirst⟩
        cases u with
        | nil =>
          rw [← show c :: l = v from huv, hc] at h
          cases h
        | cons d u =>
          obtain ⟨rfl, rfl⟩ := List.cons.inj huv
          exact ⟨u, v, rfl, h, fun u' v' hcut hlt =>
            hfirst (c :: u') v' (congrArg _ hcut) (Nat.succ_lt_succ hlt)⟩

theorem lookup_mem {α : Type} {l : List (Char × α)} {c : Char} {x : α}
    (h : l.lookup c = some x) : c ∈ l.map Prod.fst := by
  induction l with
  | nil => cases h
  | cons y l ih =>
    obtain ⟨d, z⟩ := y
    rw [List.lookup_cons] at h
    split at h
    · rename_i heq
      exact List.mem_cons.mpr (Or.inl (by simpa using heq))
    · exact List.mem_cons_of_mem _ (ih h)

theorem dropWhile_space {a : List Char} (ha : ∀ c ∈ a, isSpace c = true) {c : Char}
    (hc : isSpace c = false) (r : List Char) :
    (a ++ c :: r).dropWhile isSpace = c :: r := by
  rw [List.dropWhile_append_of_pos ha, List.dropWhile_cons_of_neg (by simp [hc])]

theorem takeWhile_space (l : List Char) : ∀ c ∈ l.takeWhile isSpace, isSpace c = true :=
  fun _ hc => List.all_eq_true.mp List.all_takeWhile _ hc

theorem numeral_isSpace {d : Char} {n : Nat} (h : numerals.lookup d = some n) :
    isSpace d = false := by
  have := lookup_mem h
  simp only [numerals, List.map, List.mem_cons, List.not_mem_nil, or_false] at this
  rcases this with rfl | rfl | rfl | rfl | rfl | rfl | rfl | rfl <;> decide

theorem labelToken_isSpace {t : Char} {n : Nat} (h : labelTokens.lookup t = some n) :
    isSpace t = false := by
  have := lookup_mem h
  simp only [labelTokens, List.map, List.mem_cons, List.not_mem_nil, or_false] at this
  rcases this with rfl | rfl | rfl | rfl | rfl | rfl <;> decide

theorem measureWord_cons {m : String} (h : m ∈ measureWords) :
    ∃ c r, m.toList = c :: r ∧ isSpace c = false := by
  simp only [measureWords, List.mem_cons, List.not_mem_nil, or_false] at h
  rcases h with rfl | rfl | rfl
  · exact ⟨'个', [], rfl, rfl⟩
  · exact ⟨'件', [], rfl, rfl⟩
  · exact ⟨'包', ['裹'], rfl, rfl⟩

theorem ordinalAt_iff {v : List Char} {n : Nat} :
    ordinalAt v = some n ↔ ∃ w r, v = w ++ r ∧ IsOrdinal w n := by
  constructor
  · intro h
    unfold ordinalAt at h
    split at h
    · rename_i rest
      split at h
      · rename_i digit rest' hdigit
        dsimp only at h
        split at h
        · rename_i m hm
          split at h
          · rename_i hmeasured
            cases h
            obtain ⟨word, hword, hmeasure⟩ := List.any_eq_true.mp hmeasured
            obtain ⟨r, hr⟩ := List.isPrefixOf_iff_prefix.mp hmeasure
            refine ⟨'第' :: (rest.takeWhile isSpace ++
              digit :: (rest'.takeWhile isSpace ++ word.toList)), r, ?_,
              rest.takeWhile isSpace, digit, rest'.takeWhile isSpace, word, hword, rfl,
              takeWhile_space rest, hm, takeWhile_space rest'⟩
            have hrest : rest = rest.takeWhile isSpace ++ digit :: rest' := by
              rw [← hdigit, List.takeWhile_append_dropWhile]
            have hrest' : rest' = rest'.takeWhile isSpace ++ (word.toList ++ r) := by
              rw [hr, List.takeWhile_append_dropWhile]
            calc '第' :: rest
                = '第' :: (rest.takeWhile isSpace ++ digit :: rest') := by rw [← hrest]
              _ = '第' :: (rest.takeWhile isSpace ++
                    digit :: (rest'.takeWhile isSpace ++ (word.toList ++ r))) := by rw [← hrest']
              _ = _ := by simp
          · cases h
        · cases h
      · cases h
    · cases h
  · rintro ⟨_, r, rfl, a, d, b, m, hm, rfl, ha, hd, hb⟩
    obtain ⟨c, m', hcons, hc⟩ := measureWord_cons hm
    have hmeasured : (b ++ (m.toList ++ r)).dropWhile isSpace = m.toList ++ r := by
      rw [hcons]
      exact dropWhile_space hb hc _
    have hany : (["个", "件", "包裹"].any fun word =>
        word.toList.isPrefixOf (m.toList ++ r)) = true :=
      List.any_eq_true.mpr ⟨m, hm, List.isPrefixOf_iff_prefix.mpr (List.prefix_append _ _)⟩
    have happend : '第' :: (a ++ d :: (b ++ m.toList)) ++ r =
        '第' :: (a ++ d :: (b ++ (m.toList ++ r))) := by simp
    rw [happend, ordinalAt, dropWhile_space ha (numeral_isSpace hd)]
    unfold numerals at hd
    dsimp only
    rw [hd]
    dsimp only
    rw [hmeasured, if_pos hany]

/-- No two of the words start in the same way. -/
theorem packageWord_unique {m m' : String} (hm : m ∈ packageWords) (hm' : m' ∈ packageWords)
    {l : List Char} (h : m.toList <+: l) (h' : m'.toList <+: l) : m = m' := by
  have hcompare := List.prefix_or_prefix_of_prefix h h'
  simp only [packageWords, List.mem_cons, List.not_mem_nil, or_false] at hm hm'
  rcases hm with rfl | rfl | rfl <;> rcases hm' with rfl | rfl | rfl <;>
    first | rfl | exact absurd hcompare (by decide)

/-- The value of one word of the package pattern. -/
theorem packageAt_word {m : String} {v : List Char} {n : Nat} :
    (if m.toList.isPrefixOf v then
      match (v.drop m.length).dropWhile isSpace with
      | token :: _ => labelTokens.lookup token
      | [] => none
    else none) = some n ↔
      ∃ a t r, v = m.toList ++ (a ++ t :: r) ∧ (∀ c ∈ a, isSpace c = true) ∧
        labelTokens.lookup t = some n := by
  constructor
  · intro h
    split at h
    · rename_i hstarts
      obtain ⟨rest, rfl⟩ := List.isPrefixOf_iff_prefix.mp hstarts
      rw [← String.length_toList, List.drop_left] at h
      split at h
      · rename_i t r ht
        refine ⟨rest.takeWhile isSpace, t, r, ?_, takeWhile_space rest, h⟩
        rw [← ht, List.takeWhile_append_dropWhile]
      · cases h
    · cases h
  · rintro ⟨a, t, r, rfl, ha, ht⟩
    rw [if_pos (List.isPrefixOf_iff_prefix.mpr (List.prefix_append _ _)), ← String.length_toList,
      List.drop_left, dropWhile_space ha (labelToken_isSpace ht)]
    exact ht

theorem packageAt_iff {v : List Char} {n : Nat} :
    packageAt v = some n ↔ ∃ w r, v = w ++ r ∧ IsLabel w n := by
  constructor
  · intro h
    obtain ⟨m, hm, hlabel⟩ := List.exists_of_findSome?_eq_some h
    obtain ⟨a, t, r, rfl, ha, ht⟩ := packageAt_word.mp hlabel
    exact ⟨m.toList ++ (a ++ [t]), r, by simp, m, hm, a, t, rfl, ha, ht⟩
  · rintro ⟨_, r, rfl, m, hm, a, t, rfl, ha, ht⟩
    have happend : m.toList ++ (a ++ [t]) ++ r = m.toList ++ (a ++ t :: r) := by simp
    have hword := packageAt_word.mpr ⟨a, t, r, happend, ha, ht⟩
    cases hread : packageAt (m.toList ++ (a ++ [t]) ++ r) with
    | none =>
      have hnone := List.findSome?_eq_none_iff.mp hread m hm
      exact nomatch hnone.symm.trans hword
    | some k =>
      obtain ⟨m', hm', hlabel⟩ := List.exists_of_findSome?_eq_some hread
      obtain ⟨a', t', r', htext, -⟩ := packageAt_word.mp hlabel
      have hsame : m' = m :=
        packageWord_unique hm' hm ⟨_, htext.symm⟩ ⟨_, happend.symm⟩
      subst hsame
      exact hlabel.symm.trans hword

/-- The search finds the leftmost of the kind that the pattern takes. -/
theorem searchText_iff {pattern : List Char → Option Nat} {kind : List Char → Nat → Prop}
    (hkind : ∀ {v n}, pattern v = some n ↔ ∃ w r, v = w ++ r ∧ kind w n) {text : String} {n : Nat} :
    searchText pattern text = some n ↔ Leftmost kind text.toList n := by
  refine firstTail_some.trans ⟨?_, ?_⟩
  · rintro ⟨u, v, htext, hv, hfirst⟩
    obtain ⟨w, r, rfl, hw⟩ := hkind.mp hv
    refine ⟨⟨u, w, r⟩, htext.symm, hw, fun q m hq hm => ?_⟩
    by_contra hlt
    have hnone := hfirst q.before (q.here ++ q.after) hq.symm (Nat.lt_of_not_le hlt)
    rw [hkind.mpr ⟨q.here, q.after, rfl, hm⟩] at hnone
    cases hnone
  · rintro ⟨⟨u, w, r⟩, htext, hw, hfirst⟩
    refine ⟨u, w ++ r, htext.symm, hkind.mpr ⟨w, r, rfl, hw⟩, fun u' v' hcut hlt => ?_⟩
    cases hv : pattern v' with
    | none => rfl
    | some m =>
      obtain ⟨w', r', rfl, hw'⟩ := hkind.mp hv
      exact absurd (hfirst ⟨u', w', r'⟩ m hcut.symm hw') (Nat.not_le_of_lt hlt)

theorem searchText_none {pattern : List Char → Option Nat} {kind : List Char → Nat → Prop}
    (hkind : ∀ {v n}, pattern v = some n ↔ ∃ w r, v = w ++ r ∧ kind w n) {text : String} :
    searchText pattern text = none ↔
      ∀ (p : Place Char) (m : Nat), p.text = text.toList → ¬ kind p.here m := by
  refine firstTail_none.trans ⟨?_, ?_⟩
  · intro h p m hp hm
    have hnone := h p.before (p.here ++ p.after) hp.symm
    rw [hkind.mpr ⟨p.here, p.after, rfl, hm⟩] at hnone
    cases hnone
  · intro h u v htext
    cases hv : pattern v with
    | none => rfl
    | some m =>
      obtain ⟨w, r, rfl, hw⟩ := hkind.mp hv
      exact absurd hw (h ⟨u, w, r⟩ m htext.symm)

theorem namedSequence_some {text : String} {n : Nat} :
    namedSequence text = some n ↔ ReadFirst text.toList n := by
  rw [namedSequence, Option.or_eq_some_iff, searchText_iff ordinalAt_iff,
    searchText_iff packageAt_iff, searchText_none ordinalAt_iff]
  rfl

theorem namedSequence_none {text : String} :
    namedSequence text = none ↔ ∀ p m, ¬ Mentions text.toList p m := by
  rw [namedSequence, Option.or_eq_none_iff, searchText_none ordinalAt_iff,
    searchText_none packageAt_iff]
  constructor
  · rintro ⟨hordinal, hlabel⟩ p m ⟨hp, h | h⟩
    · exact hordinal p m hp h
    · exact hlabel p m hp h
  · intro h
    exact ⟨fun p m hp hm => h p m ⟨hp, Or.inl hm⟩, fun p m hp hm => h p m ⟨hp, Or.inr hm⟩⟩

theorem ReadFirst.mentions {text : List Char} {n : Nat} (h : ReadFirst text n) :
    ∃ p, Mentions text p n := by
  rcases h with ⟨p, hp, hordinal, -⟩ | ⟨-, p, hp, hlabel, -⟩
  · exact ⟨p, hp, Or.inl hordinal⟩
  · exact ⟨p, hp, Or.inr hlabel⟩

/-- What is written at a place has one number. -/
theorem Mentions.number_unique {text : List Char} {p : Place Char} {n m : Nat}
    (h : Mentions text p n) (h' : Mentions text p m) : n = m := by
  obtain ⟨-, h⟩ := h
  obtain ⟨-, h'⟩ := h'
  have hkinds : ∀ {w : List Char} {n m : Nat}, IsOrdinal w n → IsLabel w m → False := by
    rintro w n m ⟨a, d, b, k, -, rfl, -⟩ ⟨word, hword, a', t, hw, -⟩
    simp only [packageWords, List.mem_cons, List.not_mem_nil, or_false] at hword
    rcases hword with rfl | rfl | rfl <;> exact absurd (List.cons.inj hw).1 (by decide)
  rcases h with h | h <;> rcases h' with h' | h'
  · exact Option.some.inj ((ordinalAt_iff.mpr ⟨_, [], (List.append_nil _).symm, h⟩).symm.trans
      (ordinalAt_iff.mpr ⟨_, [], (List.append_nil _).symm, h'⟩))
  · exact (hkinds h h').elim
  · exact (hkinds h' h).elim
  · exact Option.some.inj ((packageAt_iff.mpr ⟨_, [], (List.append_nil _).symm, h⟩).symm.trans
      (packageAt_iff.mpr ⟨_, [], (List.append_nil _).symm, h'⟩))

theorem mentions_iff {text : String} {cues : List String} :
    mentions text cues = true ↔ ∃ cue ∈ cues, Occurs text.toList cue.toList := by
  simp only [mentions, List.any_eq_true, List.mem_tails, List.isPrefixOf_iff_prefix]
  refine exists_congr fun cue => and_congr_right fun _ => ?_
  constructor
  · rintro ⟨v, ⟨u, hu⟩, r, rfl⟩
    exact ⟨⟨u, cue.toList, r⟩, hu, rfl⟩
  · rintro ⟨⟨u, w, r⟩, htext, rfl⟩
    exact ⟨cue.toList ++ r, ⟨u, htext⟩, r, rfl⟩

theorem OccursWhole.occurs {text w : List Char} (h : OccursWhole text w) : Occurs text w := by
  obtain ⟨p, hp, hw, -⟩ := h
  exact ⟨p, hp, hw⟩

/-! ### The package of a message -/

section Choice

variable [CaseFolding]

/-- What a message calls a package by. -/
def ShipmentRecord.names (s : ShipmentRecord) : List (List Char) :=
  [(CaseFolding.casefold s.shipmentId).toList, (CaseFolding.casefold s.trackingNumber).toList]

/-- An id or tracking number of the package occurs, perhaps inside a longer token. -/
def Named (text : List Char) (s : ShipmentRecord) : Prop := ∃ w ∈ s.names, Occurs text w

def NamedWhole (text : List Char) (s : ShipmentRecord) : Prop := ∃ w ∈ s.names, OccursWhole text w

/-- The message designates the package. -/
def Designates (text : List Char) (s : ShipmentRecord) : Prop :=
  NamedWhole text s ∨ ∃ p, IsWhole p ∧ Mentions text p s.packageSequence

/-- A designation is part of a longer token. -/
def CutShort (shipments : List ShipmentRecord) (text : List Char) : Prop :=
  (∃ s ∈ shipments, ∃ p : Place Char, p.text = text ∧ p.here ∈ s.names ∧ ¬ IsWhole p) ∨
    ∃ p n, Mentions text p n ∧ ¬ IsWhole p

/-- By its id or tracking number, and no other package is designated. -/
def ChosenByName (shipments : List ShipmentRecord) (text : List Char) (s : ShipmentRecord) : Prop :=
  NamedWhole text s ∧ ∀ t ∈ shipments, Designates text t → t = s

/-- By the only ordinal or label, and no other package is designated. -/
def ChosenByMention (shipments : List ShipmentRecord) (text : List Char) (s : ShipmentRecord) :
    Prop :=
  (∃ p, IsWhole p ∧ Mentions text p s.packageSequence ∧ ∀ q m, Mentions text q m → q = p) ∧
    ∀ t ∈ shipments, Designates text t → t = s

/-- No package is designated, and it is the only one, or of a partial report the only stalled
    one. -/
def ChosenByDefault (shipments : List ShipmentRecord) (text : List Char) (partialReport : Bool)
    (s : ShipmentRecord) : Prop :=
  (∀ t ∈ shipments, ¬ Designates text t) ∧
    (shipments = [s] ∨ partialReport = true ∧ shipments.filter (·.shipmentStatus = "stalled") = [s])

/-- Two packages are designated, or none is and a designation is part of a longer token. -/
def Unclear (shipments : List ShipmentRecord) (text : List Char) : Prop :=
  (∃ s ∈ shipments, ∃ t ∈ shipments, s ≠ t ∧ Designates text s ∧ Designates text t) ∨
    CutShort shipments text ∧ ∀ s ∈ shipments, ¬ Designates text s

/-- The package that is left when no rule finds one. -/
def IsLastResort (shipments : List ShipmentRecord) (partialReport : Bool) (s : ShipmentRecord) :
    Prop :=
  (if partialReport then shipments.filter (·.shipmentStatus = "stalled") else shipments) = [s]

/-- The first package whose id or tracking number occurs. -/
def FirstNamed (shipments : List ShipmentRecord) (text : List Char) (s : ShipmentRecord) : Prop :=
  s ∈ shipments ∧ Named text s ∧
    ∀ t ∈ shipments, Named text t → s.packageSequence ≤ t.packageSequence

/-- The rules do not guess on the message: the first package whose id or tracking number occurs is
    the only one that is designated; where none occurs, a number that is read and counts a package
    is the only one, and one that counts none is not part of a longer token, nor is any other, or
    there is no last resort. -/
structure ReadsClearly (shipments : List ShipmentRecord) (text : List Char)
    (partialReport : Bool) : Prop where
  named : ∀ s, FirstNamed shipments text s →
    (∀ t ∈ shipments, Designates text t ↔ t = s) ∧ (NamedWhole text s ∨ OnlyMention text)
  counted : (∀ s ∈ shipments, ¬ Named text s) → ∀ n, ReadFirst text n →
    (∃ s ∈ shipments, s.packageSequence = n) → OnlyMention text
  uncounted : (∀ s ∈ shipments, ¬ Named text s) → ∀ n, ReadFirst text n →
    (∀ s ∈ shipments, s.packageSequence ≠ n) → (∃ s, IsLastResort shipments partialReport s) →
      ∀ p m, Mentions text p m → IsWhole p ∧ ∀ s ∈ shipments, s.packageSequence ≠ m

/-- The packages of an order are told apart, and numbered from one. -/
structure PackagesOf (shipments : List ShipmentRecord) : Prop where
  ids : (shipments.map (·.shipmentId)).Nodup
  trackingNumbers : (shipments.map (·.trackingNumber)).Nodup
  sequences : (shipments.map (·.packageSequence)).Perm (List.range' 1 shipments.length)

/-- What the rules pick: by name, by number, what is left, or nothing. -/
inductive Picks (shipments : List ShipmentRecord) (text : List Char) (partialReport : Bool) :
    Option String → Prop
  | named {s : ShipmentRecord} (hfirst : FirstNamed shipments text s) :
    Picks shipments text partialReport (some s.shipmentId)
  | counted {s : ShipmentRecord} (hnone : ∀ t ∈ shipments, ¬ Named text t) (hs : s ∈ shipments)
    (hread : ReadFirst text s.packageSequence) :
    Picks shipments text partialReport (some s.shipmentId)
  | rest {s : ShipmentRecord} (hnone : ∀ t ∈ shipments, ¬ Named text t)
    (huncounted : ∀ n, ReadFirst text n → ∀ t ∈ shipments, t.packageSequence ≠ n)
    (hlast : IsLastResort shipments partialReport s) :
    Picks shipments text partialReport (some s.shipmentId)
  | nothing (hnone : ∀ t ∈ shipments, ¬ Named text t)
    (huncounted : ∀ n, ReadFirst text n → ∀ t ∈ shipments, t.packageSequence ≠ n)
    (hlast : ∀ s, ¬ IsLastResort shipments partialReport s) :
    Picks shipments text partialReport none

theorem named_iff {text : String} {s : ShipmentRecord} :
    mentions text [CaseFolding.casefold s.shipmentId, CaseFolding.casefold s.trackingNumber] =
      true ↔ Named text.toList s := by
  rw [mentions_iff, Named, ShipmentRecord.names]
  simp only [List.mem_cons, List.not_mem_nil, or_false, exists_eq_or_imp, exists_eq_left]

omit [CaseFolding] in
theorem sortedShipments_sorted (store : FixtureStore) (orderId : String) :
    (store.sortedShipments orderId).Pairwise fun a b => a.packageSequence ≤ b.packageSequence := by
  have : IsTrans ShipmentRecord fun a b => a.packageSequence ≤ b.packageSequence :=
    ⟨fun _ _ _ => Nat.le_trans⟩
  have : Std.Total fun a b : ShipmentRecord => a.packageSequence ≤ b.packageSequence :=
    ⟨fun _ _ => Nat.le_total _ _⟩
  exact List.pairwise_insertionSort _ _

/-- The first that is named in the order of the packages has the least number. -/
theorem firstNamed_of_find {l : List ShipmentRecord} {text : String} {s : ShipmentRecord}
    (hsorted : l.Pairwise fun a b => a.packageSequence ≤ b.packageSequence)
    (hfind : l.find? (fun t => mentions text
      [CaseFolding.casefold t.shipmentId, CaseFolding.casefold t.trackingNumber]) = some s) :
    FirstNamed l text.toList s := by
  obtain ⟨hs, as, bs, rfl, has⟩ := List.find?_eq_some_iff_append.mp hfind
  obtain ⟨-, hbs, -⟩ := List.pairwise_append.mp hsorted
  refine ⟨by simp, named_iff.mp hs, fun t ht hnamed => ?_⟩
  rcases List.mem_append.mp ht with h | h
  · have := has t h
    rw [named_iff.mpr hnamed] at this
    cases this
  · rcases List.mem_cons.mp h with rfl | h
    · exact Nat.le_refl _
    · exact List.rel_of_pairwise_cons hbs h

/-- The function picks by the rules. -/
theorem selectTargetShipment_picks (store : FixtureStore) (orderId : String)
    (issueType : IssueType) (message : String) :
    Picks (store.sortedShipments orderId) (CaseFolding.casefold message).toList
      (isPartialShipmentReport issueType (CaseFolding.casefold message))
      (selectTargetShipment store orderId issueType message) := by
  have hsorted := sortedShipments_sorted store orderId
  unfold selectTargetShipment
  dsimp only
  generalize store.sortedShipments orderId = l at hsorted ⊢
  generalize CaseFolding.casefold message = text
  cases hnamed : l.find? (fun t => mentions text
      [CaseFolding.casefold t.shipmentId, CaseFolding.casefold t.trackingNumber]) with
  | some s => exact .named (firstNamed_of_find hsorted hnamed)
  | none =>
    have hnone : ∀ t ∈ l, ¬ Named text.toList t := fun t ht hname =>
      List.find?_eq_none.mp hnamed t ht (named_iff.mpr hname)
    rw [Option.none_or]
    cases hcounted : (namedSequence text).bind fun n =>
        l.find? fun s => s.packageSequence = n with
    | some s =>
      obtain ⟨n, hn, hfind⟩ := Option.bind_eq_some_iff.mp hcounted
      obtain rfl : s.packageSequence = n := by simpa using List.find?_some hfind
      exact .counted hnone (List.mem_of_find?_eq_some hfind) (namedSequence_some.mp hn)
    | none =>
      have huncounted : ∀ n, ReadFirst text.toList n → ∀ t ∈ l, t.packageSequence ≠ n := by
        intro n hread t ht
        have hfind := Option.bind_eq_none_iff.mp hcounted n (namedSequence_some.mpr hread)
        simpa using List.find?_eq_none.mp hfind t ht
      dsimp only
      split
      · rename_i hpartial
        split
        · rename_i s hstalled
          exact .rest hnone huncounted (by rw [IsLastResort, if_pos hpartial]; exact hstalled)
        · rename_i hstalled
          exact .nothing hnone huncounted fun s hs => by
            rw [IsLastResort, if_pos hpartial] at hs
            exact hstalled s hs
      · rename_i hpartial
        split
        · rename_i s
          exact .rest hnone huncounted (by rw [IsLastResort, if_neg hpartial])
        · rename_i hsingle
          exact .nothing hnone huncounted fun s hs => by
            rw [IsLastResort, if_neg hpartial] at hs
            exact hsingle s hs

/-! ### Picking without guessing -/

/-- The packages are told apart by what the rules compare. -/
structure ToldApart (shipments : List ShipmentRecord) : Prop where
  ids : ∀ s ∈ shipments, ∀ t ∈ shipments, s.shipmentId = t.shipmentId → s = t
  sequences : ∀ s ∈ shipments, ∀ t ∈ shipments, s.packageSequence = t.packageSequence → s = t

omit [CaseFolding] in
theorem PackagesOf.toldApart {store : FixtureStore} {orderId : String}
    (h : PackagesOf (store.shipments orderId)) : ToldApart (store.sortedShipments orderId) := by
  have hperm : (store.sortedShipments orderId).Perm (store.shipments orderId) :=
    List.perm_insertionSort _ _
  have hsequences : ((store.shipments orderId).map (·.packageSequence)).Nodup :=
    h.sequences.nodup_iff.mpr List.nodup_range'
  constructor
  · intro s hs t ht
    exact List.inj_on_of_nodup_map h.ids (hperm.mem_iff.mp hs) (hperm.mem_iff.mp ht)
  · intro s hs t ht
    exact List.inj_on_of_nodup_map hsequences (hperm.mem_iff.mp hs) (hperm.mem_iff.mp ht)

omit [CaseFolding] in
/-- Where something is mentioned, a number is read. -/
theorem exists_readFirst {text : List Char} {p : Place Char} {m : Nat} (h : Mentions text p m) :
    ∃ n, ReadFirst text n := by
  cases hread : namedSequence (String.ofList text) with
  | some n => exact ⟨n, String.toList_ofList (l := text) ▸ namedSequence_some.mp hread⟩
  | none =>
    have := namedSequence_none.mp hread p m
    rw [String.toList_ofList] at this
    exact absurd h this

variable {shipments : List ShipmentRecord} {text : List Char} {partialReport : Bool}
  {s t : ShipmentRecord}

theorem NamedWhole.named (h : NamedWhole text s) : Named text s := by
  obtain ⟨w, hw, hoccurs⟩ := h
  exact ⟨w, hw, hoccurs.occurs⟩

omit [CaseFolding] in
theorem IsLastResort.mem (h : IsLastResort shipments partialReport s) : s ∈ shipments := by
  unfold IsLastResort at h
  split at h
  · exact (List.mem_filter.mp (h ▸ List.mem_singleton_self s)).1
  · exact h ▸ List.mem_singleton_self s

/-- A name that does not designate its package is part of a longer token. -/
theorem CutShort.of_named (hs : s ∈ shipments) (hnamed : Named text s)
    (hundesignated : ¬ Designates text s) : CutShort shipments text := by
  obtain ⟨w, hw, p, hp, rfl⟩ := hnamed
  refine Or.inl ⟨s, hs, p, hp, hw, fun hwhole => hundesignated (Or.inl ?_)⟩
  exact ⟨p.here, hw, p, hp, rfl, hwhole⟩

theorem CutShort.of_mentions {p : Place Char} (hmention : Mentions text p s.packageSequence)
    (hundesignated : ¬ Designates text s) : CutShort shipments text :=
  Or.inr ⟨p, s.packageSequence, hmention, fun hwhole =>
    hundesignated (Or.inr ⟨p, hwhole, hmention⟩)⟩

/-- Where no name occurs, the only mention designates nothing but the package that it counts. -/
theorem designated_of_onlyMention (htold : ToldApart shipments)
    (hnone : ∀ t ∈ shipments, ¬ Named text t) (hs : s ∈ shipments) {p : Place Char}
    (hmention : Mentions text p s.packageSequence) (honly : OnlyMention text)
    (ht : t ∈ shipments) (hdesignated : Designates text t) : t = s := by
  obtain ⟨o, -, -, hunique⟩ := honly
  rcases hdesignated with hname | ⟨q, -, hq⟩
  · exact absurd hname.named (hnone t ht)
  · obtain rfl := hunique q _ hq
    obtain rfl := hunique p _ hmention
    exact htold.sequences t ht s hs (hq.number_unique hmention)

/-- What is picked is designated, and nothing is picked where the designation is unclear. -/
structure PicksClearly (shipments : List ShipmentRecord) (text : List Char) (partialReport : Bool)
    (picked : Option String) : Prop where
  designated : ∀ shipmentId, picked = some shipmentId → ∃ s ∈ shipments,
    s.shipmentId = shipmentId ∧ (ChosenByName shipments text s ∨
      ChosenByMention shipments text s ∨ ChosenByDefault shipments text partialReport s)
  unclear : Unclear shipments text → picked = none

/-- A package is picked clearly if it is chosen and the message is not unclear. -/
theorem picksClearly_some (htold : ToldApart shipments) (hs : s ∈ shipments) :
    PicksClearly shipments text partialReport (some s.shipmentId) ↔
      (ChosenByName shipments text s ∨ ChosenByMention shipments text s ∨
        ChosenByDefault shipments text partialReport s) ∧ ¬ Unclear shipments text := by
  constructor
  · intro h
    obtain ⟨t, ht, hid, hchosen⟩ := h.designated _ rfl
    obtain rfl := htold.ids t ht s hs hid
    refine ⟨hchosen, fun hunclear => ?_⟩
    cases h.unclear hunclear
  · rintro ⟨hchosen, hclear⟩
    refine ⟨fun shipmentId hpicked => ?_, fun hunclear => absurd hunclear hclear⟩
    cases hpicked
    exact ⟨s, hs, rfl, hchosen⟩

/-- A message that designates one package is not unclear. -/
theorem not_unclear (hs : s ∈ shipments) (hdesignated : Designates text s)
    (hother : ∀ t ∈ shipments, Designates text t → t = s) : ¬ Unclear shipments text := by
  rintro (⟨a, ha, b, hb, hne, hda, hdb⟩ | ⟨-, hnone⟩)
  · exact hne ((hother a ha hda).trans (hother b hb hdb).symm)
  · exact hnone s hs hdesignated

/-- By name, the first package has to be the only one that is designated. -/
theorem picksClearly_named (htold : ToldApart shipments) (hfirst : FirstNamed shipments text s) :
    PicksClearly shipments text partialReport (some s.shipmentId) ↔
      ReadsClearly shipments text partialReport := by
  obtain ⟨hs, hnamed, hleast⟩ := hfirst
  rw [picksClearly_some htold hs]
  constructor
  · rintro ⟨hchosen, hclear⟩
    have hdesignates : (∀ t ∈ shipments, Designates text t ↔ t = s) ∧
        (NamedWhole text s ∨ OnlyMention text) := by
      rcases hchosen with ⟨hwhole, hother⟩ | ⟨⟨p, hp, hmention, hunique⟩, hother⟩ | ⟨hnone, -⟩
      · refine ⟨fun t ht => ⟨hother t ht, ?_⟩, Or.inl hwhole⟩
        rintro rfl
        exact Or.inl hwhole
      · refine ⟨fun t ht => ⟨hother t ht, ?_⟩, Or.inr ⟨p, hp, ⟨_, hmention⟩, hunique⟩⟩
        rintro rfl
        exact Or.inr ⟨p, hp, hmention⟩
      · exact absurd (Or.inr ⟨.of_named hs hnamed (hnone s hs), hnone⟩) hclear
    refine ⟨fun t hfirst => ?_, fun hnone => absurd hnamed (hnone s hs),
      fun hnone => absurd hnamed (hnone s hs)⟩
    have hsame : t = s := htold.sequences t hfirst.1 s hs
      (Nat.le_antisymm (hfirst.2.2 s hs hnamed) (hleast t hfirst.1 hfirst.2.1))
    rw [hsame]
    exact hdesignates
  · intro h
    obtain ⟨hdesignates, hhow⟩ := h.named s ⟨hs, hnamed, hleast⟩
    have hother : ∀ t ∈ shipments, Designates text t → t = s := fun t ht => (hdesignates t ht).mp
    have hself : Designates text s := (hdesignates s hs).mpr rfl
    refine ⟨?_, not_unclear hs hself hother⟩
    rcases hself with hwhole | ⟨q, hq, hmention⟩
    · exact Or.inl ⟨hwhole, hother⟩
    · rcases hhow with hwhole | ⟨p, -, -, hunique⟩
      · exact Or.inl ⟨hwhole, hother⟩
      · obtain rfl := hunique q _ hmention
        exact Or.inr (Or.inl ⟨⟨q, hq, hmention, hunique⟩, hother⟩)

/-- By number, the mention has to be the only one. -/
theorem picksClearly_counted (htold : ToldApart shipments)
    (hnone : ∀ t ∈ shipments, ¬ Named text t) (hs : s ∈ shipments)
    (hread : ReadFirst text s.packageSequence) :
    PicksClearly shipments text partialReport (some s.shipmentId) ↔
      ReadsClearly shipments text partialReport := by
  obtain ⟨p, hmention⟩ := hread.mentions
  rw [picksClearly_some htold hs]
  constructor
  · rintro ⟨hchosen, hclear⟩
    have honly : OnlyMention text := by
      rcases hchosen with ⟨hwhole, -⟩ | ⟨⟨q, hq, hm, hunique⟩, -⟩ | ⟨hundesignated, -⟩
      · exact absurd hwhole.named (hnone s hs)
      · exact ⟨q, hq, ⟨_, hm⟩, hunique⟩
      · exact absurd (Or.inr ⟨.of_mentions hmention (hundesignated s hs), hundesignated⟩) hclear
    refine ⟨fun t hfirst => absurd hfirst.2.1 (hnone t hfirst.1), fun _ _ _ _ => honly,
      fun _ n hn huncounted => ?_⟩
    obtain ⟨o, -, -, hunique⟩ := honly
    obtain ⟨q, hq⟩ := hn.mentions
    obtain rfl := hunique q _ hq
    obtain rfl := hunique p _ hmention
    exact absurd (hmention.number_unique hq) (huncounted s hs)
  · intro h
    have honly := h.counted hnone _ hread ⟨s, hs, rfl⟩
    have hother : ∀ t ∈ shipments, Designates text t → t = s := fun t ht =>
      designated_of_onlyMention htold hnone hs hmention honly ht
    obtain ⟨o, ho, -, hunique⟩ := honly
    obtain rfl := hunique p _ hmention
    exact ⟨Or.inr (Or.inl ⟨⟨p, ho, hmention, hunique⟩, hother⟩),
      not_unclear hs (Or.inr ⟨p, ho, hmention⟩) hother⟩

/-- The last resort needs that nothing which is mentioned is part of a longer token or counts a
    package. -/
theorem picksClearly_rest (htold : ToldApart shipments)
    (hnone : ∀ t ∈ shipments, ¬ Named text t)
    (huncounted : ∀ n, ReadFirst text n → ∀ t ∈ shipments, t.packageSequence ≠ n)
    (hlast : IsLastResort shipments partialReport s) :
    PicksClearly shipments text partialReport (some s.shipmentId) ↔
      ReadsClearly shipments text partialReport := by
  have hs := hlast.mem
  rw [picksClearly_some htold hs]
  constructor
  · rintro ⟨hchosen, hclear⟩
    refine ⟨fun t hfirst => absurd hfirst.2.1 (hnone t hfirst.1),
      fun _ n hn => fun ⟨t, ht, htn⟩ => absurd htn (huncounted n hn t ht),
      fun _ n hn _ _ p m hm => ?_⟩
    rcases hchosen with ⟨hwhole, -⟩ | ⟨⟨o, -, ho, hunique⟩, -⟩ | ⟨hundesignated, -⟩
    · exact absurd hwhole.named (hnone s hs)
    · obtain ⟨q, hq⟩ := hn.mentions
      obtain rfl := hunique q _ hq
      exact absurd (ho.number_unique hq) (huncounted n hn s hs)
    · have hwhole : IsWhole p := by
        by_contra hcut
        exact hclear (Or.inr ⟨Or.inr ⟨p, m, hm, hcut⟩, hundesignated⟩)
      refine ⟨hwhole, ?_⟩
      rintro t ht rfl
      exact hundesignated t ht (Or.inr ⟨p, hwhole, hm⟩)
  · intro h
    have hmentions : ∀ p m, Mentions text p m →
        IsWhole p ∧ ∀ t ∈ shipments, t.packageSequence ≠ m := by
      intro p m hm
      obtain ⟨n, hn⟩ := exists_readFirst hm
      exact h.uncounted hnone n hn (huncounted n hn) ⟨s, hlast⟩ p m hm
    have hundesignated : ∀ t ∈ shipments, ¬ Designates text t := by
      rintro t ht (hwhole | ⟨p, -, hp⟩)
      · exact hnone t ht hwhole.named
      · exact (hmentions p _ hp).2 t ht rfl
    constructor
    · refine Or.inr (Or.inr ⟨hundesignated, ?_⟩)
      cases partialReport with
      | false => exact Or.inl hlast
      | true => exact Or.inr ⟨rfl, hlast⟩
    · rintro (⟨a, ha, -, -, -, hda, -⟩ | ⟨⟨a, ha, p, hp, hname, -⟩ | ⟨p, m, hm, hcut⟩, -⟩)
      · exact hundesignated a ha hda
      · exact hnone a ha ⟨p.here, hname, p, hp, rfl⟩
      · exact hcut (hmentions p m hm).1

/-- The rules pick clearly on the messages that read clearly, and on no others. -/
theorem Picks.clearly_iff (htold : ToldApart shipments) {picked : Option String}
    (h : Picks shipments text partialReport picked) :
    PicksClearly shipments text partialReport picked ↔
      ReadsClearly shipments text partialReport := by
  cases h with
  | named hfirst => exact picksClearly_named htold hfirst
  | counted hnone hs hread => exact picksClearly_counted htold hnone hs hread
  | rest hnone huncounted hlast => exact picksClearly_rest htold hnone huncounted hlast
  | nothing hnone huncounted hlast =>
    constructor
    · intro _
      exact ⟨fun t hfirst => absurd hfirst.2.1 (hnone t hfirst.1),
        fun _ n hn => fun ⟨t, ht, htn⟩ => absurd htn (huncounted n hn t ht),
        fun _ _ _ _ => fun ⟨s, hs⟩ => absurd hs (hlast s)⟩
    · intro _
      constructor
      · intro shipmentId hpicked
        cases hpicked
      · intro _
        rfl

/-- The target package of a message is not guessed, and an unclear answer selects none: the
    application asks again. -/
structure NeverGuessed [PolicyDigest] (store : FixtureStore) (orderId : String)
    (issueType : IssueType) (message : String) : Prop where
  picks : PicksClearly (store.sortedShipments orderId) (CaseFolding.casefold message).toList
    (isPartialShipmentReport issueType (CaseFolding.casefold message))
    (selectTargetShipment store orderId issueType message)
  asks : Unclear (store.sortedShipments orderId) (CaseFolding.casefold message).toList →
    ∀ (caseId : RowId) (f : CaseFolder) (x : ServiceState), x.1.folders caseId = some f →
      x.2.fixtures = store → f.row.authorizedOrderId = orderId →
      f.row.canonicalIssueType = issueType → Service.selectPackage caseId message x = .ok (none, x)

/-- A reply that picks no package leaves the state as it is. -/
theorem selectPackage_none [PolicyDigest] {caseId : RowId} {f : CaseFolder} {x : ServiceState}
    {message : String} (hf : x.1.folders caseId = some f)
    (hnone : selectTargetShipment x.2.fixtures f.row.authorizedOrderId f.row.canonicalIssueType
      message = none) : Service.selectPackage caseId message x = .ok (none, x) := by
  rw [Service.selectPackage, Transaction.bind_ok (Repository.requireCase_ok hf),
    Transaction.bind_ok (show Repository.shared x = .ok (x.2, x) from rfl), hnone]
  rfl

/-- The target package is not guessed exactly on the messages that read clearly. -/
theorem neverGuessed_iff [PolicyDigest] {store : FixtureStore} {orderId : String}
    (hpackages : PackagesOf (store.shipments orderId)) (issueType : IssueType) (message : String) :
    NeverGuessed store orderId issueType message ↔
      ReadsClearly (store.sortedShipments orderId) (CaseFolding.casefold message).toList
        (isPartialShipmentReport issueType (CaseFolding.casefold message)) := by
  have hclearly := (selectTargetShipment_picks store orderId issueType message).clearly_iff
    hpackages.toldApart
  constructor
  · intro h
    exact hclearly.mp h.picks
  · intro h
    have hpicks := hclearly.mpr h
    refine ⟨hpicks, ?_⟩
    rintro hunclear caseId f x hf rfl rfl rfl
    exact selectPackage_none hf (hpicks.unclear hunclear)

end Choice

section TwoPackages

attribute [local instance] PolicyDigest.bySource CaseFolding.lower

/-- An order in two packages, and the id of the first is the start of the id of the second. -/
def nestedIds : FixtureStore where
  fixtureVersion := "v1"
  orders _ := none
  timelines _ := []
  deliveryProofs _ := none
  carrierAlerts _ := []
  shipments _ :=
    [⟨"SHP-1", 1, 2, "TRK-1", "in_transit"⟩, ⟨"SHP-10", 2, 2, "TRK-10", "in_transit"⟩]
  investigationCases := []
  faults _ _ _ := none
  actionFaultPlan _ := []
  baseTickets := []
  dynamicTickets := []
  ticketRevision := 0
  actionFaultPositions _ := 0
  ordersKey _ _ h := by cases h

theorem nestedIds_packages : PackagesOf (nestedIds.shipments "ORD-1") :=
  ⟨by decide, by decide, by decide⟩

/-- The tracking number of the first package stands in the message for itself. -/
theorem firstTracking_clear :
    ReadsClearly (nestedIds.sortedShipments "ORD-1") "trk-1没更新".toList false := by
  have hwhole : NamedWhole "trk-1没更新".toList ⟨"SHP-1", 1, 2, "TRK-1", "in_transit"⟩ :=
    ⟨"trk-1".toList, by decide +kernel, ⟨[], "trk-1".toList, "没更新".toList⟩, rfl, rfl, rfl, rfl⟩
  have hmentions : ∀ p m, ¬ Mentions "trk-1没更新".toList p m :=
    namedSequence_none.mp (by decide +kernel)
  have hother : ¬ Designates "trk-1没更新".toList ⟨"SHP-10", 2, 2, "TRK-10", "in_transit"⟩ := by
    rintro (hname | ⟨p, -, hp⟩)
    · exact absurd (named_iff.mpr hname.named) (by decide +kernel)
    · exact hmentions p _ hp
  have hsorted : nestedIds.sortedShipments "ORD-1" =
      [⟨"SHP-1", 1, 2, "TRK-1", "in_transit"⟩, ⟨"SHP-10", 2, 2, "TRK-10", "in_transit"⟩] := rfl
  rw [hsorted]
  constructor
  · rintro s ⟨hs, hnamed, -⟩
    rcases List.mem_pair.mp hs with rfl | rfl
    · refine ⟨fun t ht => ?_, Or.inl hwhole⟩
      rcases List.mem_pair.mp ht with rfl | rfl
      · exact ⟨fun _ => rfl, fun _ => Or.inl hwhole⟩
      · exact ⟨fun h => absurd h hother, fun h => absurd h (by decide)⟩
    · exact absurd (named_iff.mpr hnamed) (by decide +kernel)
  · intro hnone
    exact absurd hwhole.named (hnone _ (List.mem_cons_self ..))
  · intro hnone
    exact absurd hwhole.named (hnone _ (List.mem_cons_self ..))

theorem firstTracking_notGuessed :
    NeverGuessed nestedIds "ORD-1" .stalledTracking "TRK-1没更新" := by
  have hfolded : CaseFolding.casefold "TRK-1没更新" = "trk-1没更新" := by decide +kernel
  refine (neverGuessed_iff nestedIds_packages .stalledTracking "TRK-1没更新").mpr ?_
  rw [hfolded]
  exact firstTracking_clear

/-- A message that gives the id of the second package selects the first. -/
theorem nestedId_guessed :
    ¬ ∀ (store : FixtureStore) (orderId : String) (issueType : IssueType) (message : String),
      PackagesOf (store.shipments orderId) → NeverGuessed store orderId issueType message := by
  intro h
  have hpicks := (h nestedIds "ORD-1" .stalledTracking "SHP-10没更新" nestedIds_packages).picks
  have hfolded : CaseFolding.casefold "SHP-10没更新" = "shp-10没更新" := by decide +kernel
  have hsecond : Designates "shp-10没更新".toList ⟨"SHP-10", 2, 2, "TRK-10", "in_transit"⟩ :=
    Or.inl ⟨"shp-10".toList, by decide +kernel,
      ⟨[], "shp-10".toList, "没更新".toList⟩, rfl, rfl, rfl, rfl⟩
  have hmem : (⟨"SHP-10", 2, 2, "TRK-10", "in_transit"⟩ : ShipmentRecord) ∈
      nestedIds.sortedShipments "ORD-1" := by decide
  rw [hfolded] at hpicks
  obtain ⟨s, -, hid, hchosen⟩ := hpicks.designated "SHP-1" (by decide +kernel)
  have hfirst : (⟨"SHP-10", 2, 2, "TRK-10", "in_transit"⟩ : ShipmentRecord) ≠ s := by
    rintro rfl
    exact absurd hid (by decide)
  rcases hchosen with ⟨-, hother⟩ | ⟨-, hother⟩ | ⟨hnone, -⟩
  · exact hfirst (hother _ hmem hsecond)
  · exact hfirst (hother _ hmem hsecond)
  · exact hnone _ hmem hsecond

end TwoPackages

end AfterSales
