import AfterSales.Agents.Patterns

/-! Whether personal data survives its redaction.

    Mobile numbers are hidden first and addresses in what that leaves. Both passes leave the rest of
    the text as it is, and a second redaction has nothing to do. No mobile number survives. An
    address does wherever the word boundaries of its pattern are missing, as after a Chinese
    character. -/

namespace AfterSales

open Pattern

/-! ### Characters -/

section Characters

theorem isLocal_of_isDomain {c : Char} (h : isDomain c = true) : isLocal c = true := by
  simp only [isDomain, isLocal, Bool.or_eq_true, decide_eq_true_eq, List.mem_cons,
    List.not_mem_nil, or_false] at h ⊢
  tauto

theorem isDomain_of_isLetter {c : Char} (h : isLetter c = true) : isDomain c = true := by
  simp [isDomain, h]

theorem isLocal_of_isLetter {c : Char} (h : isLetter c = true) : isLocal c = true :=
  isLocal_of_isDomain (isDomain_of_isLetter h)

theorem ne_at_of_isLocal {c : Char} (h : isLocal c = true) : c ≠ '@' := by
  rintro rfl
  revert h
  decide

theorem isLocal_dot : isLocal '.' = true := by decide

variable [CharacterClasses]

theorem isWord_at : isWord '@' = false := isWord_ascii (by decide) (by decide)

theorem isWord_dot : isWord '.' = false := isWord_ascii (by decide) (by decide)

theorem isWord_close : isWord ']' = false := isWord_ascii (by decide) (by decide)

theorem isDigit_of_not_isWord {c : Char} (h : isWord c = false) : isDigit c = false := by
  cases hdigit : isDigit c with
  | false => rfl
  | true =>
    rw [CharacterClasses.digit_word c hdigit] at h
    cases h

theorem any_isWord {o : Option Char} (h : o.any isDigit = true) : o.any isWord = true := by
  cases o with
  | none => cases h
  | some c => exact CharacterClasses.digit_word c h

theorem any_isDigit {o : Option Char} (h : o.any isWord = false) : o.any isDigit = false := by
  cases hdigit : o.any isDigit with
  | false => rfl
  | true =>
    rw [any_isWord hdigit] at h
    cases h

/-- At a boundary a word character stands on one side only. -/
theorem next_of_boundary {prev next : Option Char} (h : wordBoundary prev next = true)
    (hprev : prev.any isWord = true) : next.any isWord = false := by
  rw [wordBoundary, hprev] at h
  cases hnext : next.any isWord with
  | false => rfl
  | true =>
    rw [hnext] at h
    cases h

end Characters

/-! ### What counts as an address -/

/-- The part of an address before the `@`. -/
def LocalPart (l : List Char) : Prop := l ≠ [] ∧ ∀ c ∈ l, isLocal c = true

/-- The part after it: a host name, a dot, and at least two letters. -/
def DomainPart (v : List Char) : Prop :=
  ∃ d t, v = d ++ '.' :: t ∧ (d ≠ [] ∧ ∀ c ∈ d, isDomain c = true) ∧
    2 ≤ t.length ∧ ∀ c ∈ t, isLetter c = true

def IsAddress (w : List Char) : Prop := ∃ l v, w = l ++ '@' :: v ∧ LocalPart l ∧ DomainPart v

theorem LocalPart.at_notMem {l : List Char} (h : LocalPart l) : '@' ∉ l :=
  fun hmem => ne_at_of_isLocal (h.2 _ hmem) rfl

theorem LocalPart.head {l : List Char} (h : LocalPart l) (r : List Char) :
    (l ++ r).head? = l.head? := by
  obtain ⟨c, l, rfl⟩ := List.exists_cons_of_ne_nil h.1
  rfl

theorem DomainPart.isLocal {v : List Char} (h : DomainPart v) : ∀ c ∈ v, isLocal c = true := by
  obtain ⟨d, t, rfl, ⟨-, hd⟩, -, ht⟩ := h
  intro c hc
  rcases List.mem_append.mp hc with hc | hc
  · exact isLocal_of_isDomain (hd c hc)
  · rcases List.mem_cons.mp hc with rfl | hc
    · exact isLocal_dot
    · exact isLocal_of_isLetter (ht c hc)

theorem DomainPart.ne_nil {v : List Char} (h : DomainPart v) : v ≠ [] := by
  obtain ⟨d, t, rfl, -, -, -⟩ := h
  simp

theorem DomainPart.at_notMem {v : List Char} (h : DomainPart v) : '@' ∉ v :=
  fun hmem => ne_at_of_isLocal (h.isLocal _ hmem) rfl

theorem getLast_host (d : List Char) {t : List Char} (h : t ≠ []) :
    (d ++ '.' :: t).getLast? = t.getLast? := by
  rw [List.getLast?_append_of_ne_nil _ (List.cons_ne_nil _ _), List.getLast?_cons_of_ne_nil h]

/-- A domain ends with a letter. -/
theorem DomainPart.getLast {v : List Char} (h : DomainPart v) :
    ∃ c, v.getLast? = some c ∧ isLetter c = true := by
  obtain ⟨d, t, rfl, -, hlength, ht⟩ := h
  have hne : t ≠ [] := by
    rintro rfl
    simp at hlength
  exact ⟨t.getLast hne, by rw [getLast_host d hne, List.getLast?_eq_some_getLast hne],
    ht _ (List.getLast_mem hne)⟩

/-- The first `@` of a text. -/
theorem at_split {l l' r r' : List Char} (hl : '@' ∉ l) (hl' : '@' ∉ l')
    (h : l ++ '@' :: r = l' ++ '@' :: r') : l = l' ∧ r = r' := by
  induction l generalizing l' with
  | nil =>
    cases l' with
    | nil => exact ⟨rfl, (List.cons.inj h).2⟩
    | cons c l' =>
      obtain ⟨rfl, -⟩ := List.cons.inj h
      exact absurd List.mem_cons_self hl'
  | cons c l ih =>
    cases l' with
    | nil =>
      obtain ⟨rfl, -⟩ := List.cons.inj h
      exact absurd List.mem_cons_self hl
    | cons d l' =>
      obtain ⟨rfl, hrest⟩ := List.cons.inj h
      obtain ⟨rfl, rfl⟩ := ih (fun hc => hl (List.mem_cons_of_mem _ hc))
        (fun hc => hl' (List.mem_cons_of_mem _ hc)) hrest
      exact ⟨rfl, rfl⟩

/-- The only `@` of a text. -/
theorem at_unique {l l' v v' : List Char} (hl : '@' ∉ l) (hv : '@' ∉ v)
    (h : l ++ '@' :: v = l' ++ '@' :: v') : l = l' ∧ v = v' := by
  refine at_split hl (fun hmem => ?_) h
  obtain ⟨a, b, rfl⟩ := List.append_of_mem hmem
  have hcount := congrArg (List.count '@') h
  simp only [List.count_append, List.count_cons_self, List.count_eq_zero_of_not_mem hl,
    List.count_eq_zero_of_not_mem hv] at hcount
  omega

section Address

variable [CharacterClasses]

theorem wordBoundary_of_letter {v : List Char} {next : Option Char} (hv : DomainPart v) :
    wordBoundary v.getLast? next = true ↔ next.any isWord = false := by
  obtain ⟨c, hlast, hletter⟩ := hv.getLast
  rw [wordBoundary, hlast, Option.any_some, isWord_of_isLetter hletter]
  cases next.any isWord <;> decide

/-- What the address pattern takes is an address, with a word boundary at each end. -/
theorem fits_address {prev : Option Char} {w rest : List Char} :
    addressPattern.Fits prev w rest ↔ ∃ l v, w = l ++ '@' :: v ∧ LocalPart l ∧ DomainPart v ∧
      wordBoundary prev l.head? = true ∧ rest.head?.any isWord = false := by
  simp only [addressPattern, Fits, decide_eq_true_eq]
  constructor
  · rintro ⟨-, -, rfl, ⟨hfirst, rfl⟩, l, -, rfl, ⟨hlength, hl⟩, -, -, rfl, ⟨c, rfl, rfl⟩, d, -, rfl,
      ⟨hdlength, hd⟩, -, -, rfl, ⟨c, rfl, rfl⟩, t, -, rfl, ⟨htlength, ht⟩, hlast, rfl⟩
    have hlocal : LocalPart l := ⟨List.length_pos_iff.mp hlength, hl⟩
    have hdomain : DomainPart (d ++ '.' :: t) :=
      ⟨d, t, rfl, ⟨List.length_pos_iff.mp hdlength, hd⟩, htlength, ht⟩
    have hne : t ≠ [] := List.length_pos_iff.mp (by omega)
    refine ⟨l, d ++ '.' :: t, by simp, hlocal, hdomain, ?_, ?_⟩
    · rwa [List.append_assoc, hlocal.head] at hfirst
    · rw [before_of_ne_nil hne] at hlast
      rwa [← wordBoundary_of_letter hdomain, getLast_host d hne]
  · rintro ⟨l, -, rfl, hl, ⟨d, t, rfl, ⟨hdne, hd⟩, htlength, ht⟩, hfirst, hlast⟩
    have hdomain : DomainPart (d ++ '.' :: t) := ⟨d, t, rfl, ⟨hdne, hd⟩, htlength, ht⟩
    have hne : t ≠ [] := List.length_pos_iff.mp (by omega)
    refine ⟨[], _, rfl, ⟨?_, rfl⟩, l, _, rfl, ⟨List.length_pos_iff.mpr hl.1, hl.2⟩, ['@'], _, rfl,
      ⟨_, rfl, rfl⟩, d, _, rfl, ⟨List.length_pos_iff.mpr hdne, hd⟩, ['.'], _, rfl, ⟨_, rfl, rfl⟩, t,
      [], (List.append_nil t).symm, ⟨htlength, ht⟩, ?_, rfl⟩
    · show wordBoundary prev (l ++ '@' :: (d ++ '.' :: t) ++ rest).head? = true
      rwa [List.append_assoc, hl.head]
    · rw [before_of_ne_nil hne]
      rwa [← wordBoundary_of_letter hdomain, getLast_host d hne] at hlast

/-- The host name that is taken is as long as it can be. -/
theorem find_address {prev : Option Char} {text w r : List Char}
    (hfind : addressPattern.find prev text = some (w, r)) :
    ∃ l d t, w = l ++ '@' :: (d ++ '.' :: t) ∧ LocalPart l ∧ (∀ c ∈ d, isDomain c = true) ∧
      ∀ d' t' r', d ++ '.' :: (t ++ r) = d' ++ '.' :: (t' ++ r') → d' ≠ [] →
        (∀ c ∈ d', isDomain c = true) → 2 ≤ t'.length → (∀ c ∈ t', isLetter c = true) →
        r'.head?.any isWord = false → d'.length ≤ d.length := by
  obtain ⟨-, w, rfl, -, ⟨-, rfl⟩, hfind, -⟩ := find_seq hfind
  obtain ⟨l, w, rfl, -, ⟨hlength, hl⟩, hfind, -⟩ := find_many hfind
  obtain ⟨-, w, rfl, -, ⟨c, hc, rfl⟩, hfind, -⟩ := find_seq hfind
  obtain ⟨d, w, rfl, -, ⟨-, hd⟩, hfind, hgreedy⟩ := find_many hfind
  obtain ⟨-, w, rfl, -, ⟨c', hc', rfl⟩, hfind, -⟩ := find_seq hfind
  obtain ⟨t, w, rfl, -, -, hfind, -⟩ := find_many hfind
  obtain ⟨-, -, rfl⟩ := fits_of_find hfind
  obtain rfl : c = '@' := of_decide_eq_true hc
  obtain rfl : c' = '.' := of_decide_eq_true hc'
  refine ⟨l, d, t, by simp, ⟨List.length_pos_iff.mp hlength, hl⟩, hd, ?_⟩
  intro d' t' r' heq hdne hd' htlength ht hlast
  have hne : t' ≠ [] := List.length_pos_iff.mp (by omega)
  refine hgreedy d' ('.' :: t') r' (by simpa using heq) (List.length_pos_iff.mpr hdne) hd'
    ⟨['.'], t', rfl, ⟨'.', rfl, rfl⟩, t', [], (List.append_nil t').symm, ⟨htlength, ht⟩, ?_, rfl⟩
  have hdomain : DomainPart (d' ++ '.' :: t') := ⟨d', t', rfl, ⟨hdne, hd'⟩, htlength, ht⟩
  rwa [before_of_ne_nil hne, ← getLast_host d' hne, wordBoundary_of_letter hdomain]

/-- Letters go on no further than to the next character that is not of a word. -/
theorem letters_end {t r t' r' : List Char} (h : t' ++ r' = t ++ r)
    (hletters : ∀ c ∈ t', isLetter c = true) (hr : r.head?.any isWord = false) :
    t'.length ≤ t.length := by
  rcases List.append_eq_append_iff.mp h with ⟨e, rfl, -⟩ | ⟨e, rfl, htail⟩
  · simp
  · cases e with
    | nil => simp
    | cons c e =>
      have hword := isWord_of_isLetter (hletters c (by simp))
      rw [htail, List.cons_append, List.head?_cons, Option.any_some, hword] at hr
      cases hr

/-- No other match at the same place is longer. -/
theorem address_longest {prev : Option Char} {w r w' r' : List Char}
    (hfind : addressPattern.find prev (w' ++ r') = some (w, r))
    (hfits : addressPattern.Fits prev w' r') : w'.length ≤ w.length := by
  obtain ⟨htext, hfound⟩ := fits_of_find hfind
  obtain ⟨-, -, -, -, -, -, hend⟩ := fits_address.mp hfound
  obtain ⟨l, d, t, rfl, hl, hd, hgreedy⟩ := find_address hfind
  obtain ⟨l', -, rfl, hl', ⟨d', t', rfl, ⟨hdne, hd'⟩, htlength, ht'⟩, -, hlast⟩ :=
    fits_address.mp hfits
  simp only [List.append_assoc, List.cons_append] at htext
  obtain ⟨rfl, hhost⟩ := at_split hl'.at_notMem hl.at_notMem htext
  have hle := hgreedy d' t' r' hhost.symm hdne hd' htlength ht' hlast
  have hshort : d'.length + t'.length ≤ d.length + t.length := by
    obtain ⟨e, rfl, htail⟩ : ∃ e, d = d' ++ e ∧ '.' :: (t' ++ r') = e ++ '.' :: (t ++ r) := by
      rcases List.append_eq_append_iff.mp hhost with h | ⟨e, rfl, htail⟩
      · exact h
      · rw [List.length_append] at hle
        obtain rfl : e = [] := List.length_eq_zero_iff.mp (by omega)
        exact ⟨[], by simp, htail.symm⟩
    rw [List.length_append]
    cases e with
    | nil =>
      -- the same host name
      have hletters := letters_end (List.cons.inj htail).2 ht' hend
      omega
    | cons c e =>
      -- a shorter one: its letters end before the dot that follows the longer one
      have hletters := letters_end (List.cons.inj htail).2 ht' isWord_dot
      rw [List.length_cons]
      omega
  simp only [List.length_append, List.length_cons]
  omega

/-! ### Which addresses a scan reaches -/

/-- What a pattern can take as a local part ends the text. -/
def Opens (s : List Char) : Prop :=
  ∃ b l, s = b ++ l ∧ LocalPart l ∧ wordBoundary b.getLast? l.head? = true

/-- What a pattern can take as a domain begins the text. -/
def Closes (r : List Char) : Prop :=
  ∃ v x, r = v ++ x ∧ DomainPart v ∧ x.head?.any isWord = false

/-- The text before an `@` ends with the domain of an address that is hidden: one that the pattern
    can take, and whose local part is not lost to the address before. -/
def EndsHidden (s : List Char) : Prop :=
  ∃ b v, ∃ _ : s = b ++ '@' :: v, DomainPart v ∧ Opens b ∧ ¬ EndsHidden b
termination_by s.length
decreasing_by simp only [*, List.length_append, List.length_cons]; omega

/-- What follows an `@` is the local part of an address that is hidden. -/
def GivesWay (r : List Char) : Prop :=
  ∃ l x, r = l ++ '@' :: x ∧ (∀ c ∈ l, isLocal c = true) ∧ Closes x

/-- Around every `@` where an address is written, the pattern can take one, or a part of it is
    hidden with the address before or after. -/
def Reached (text : List Char) : Prop :=
  ∀ s r, text = s ++ '@' :: r → (∃ c, s.getLast? = some c ∧ isLocal c = true) →
    (∃ v x, r = v ++ x ∧ DomainPart v) → (Opens s ∧ Closes r) ∨ EndsHidden s ∨ GivesWay r

/-- The parts of a match, and what stands at its ends. -/
theorem found_address {text : List Char} {qs rs : List (Piece Char)} {m : List Char}
    (h : Scans addressPattern none text (qs ++ .found m :: rs)) :
    ∃ l v, m = l ++ '@' :: v ∧ LocalPart l ∧ DomainPart v ∧
      wordBoundary (source qs).getLast? l.head? = true ∧
      (source rs).head?.any isWord = false := by
  have hfits := h.fits_found
  rw [before_none] at hfits
  exact fits_address.mp hfits

theorem found_at {text : List Char} {qs rs : List (Piece Char)} {m : List Char}
    (h : Scans addressPattern none text (qs ++ .found m :: rs)) : '@' ∈ m := by
  obtain ⟨l, v, rfl, -⟩ := found_address h
  simp

/-- After a match stands no word character. -/
theorem boundary_after_found {text : List Char} {qs rs : List (Piece Char)} {m : List Char}
    (h : Scans addressPattern none text (qs ++ .found m :: rs)) :
    wordBoundary (before none (source (qs ++ [.found m]))) (source rs).head? = true := by
  obtain ⟨l, v, rfl, -, hdomain, -, hlast⟩ := found_address h
  obtain ⟨c, hc, hletter⟩ := hdomain.getLast
  have hend : (source (qs ++ [.found (l ++ '@' :: v)])).getLast? = some c := by
    rw [source_append, source_found, source_nil, List.append_nil, ← List.append_assoc,
      List.getLast?_append_of_ne_nil _ (List.cons_ne_nil _ _),
      List.getLast?_cons_of_ne_nil hdomain.ne_nil, hc]
  rw [before_none, hend, wordBoundary, hlast, Option.any_some, isWord_of_isLetter hletter]
  rfl

/-- What is left of a local part after a match begins an address. -/
theorem nothing_between {text : List Char} {qs ds rs : List (Piece Char)} {m : List Char}
    (h : Scans addressPattern none text (qs ++ .found m :: (ds ++ .text '@' :: rs)))
    (hlocal : ∀ c ∈ source ds, isLocal c = true) (hr : Closes (source rs)) : ds = [] := by
  by_contra hds
  obtain ⟨v, x, hv, hdomain, hlast⟩ := hr
  have hrest : Solid ([.found m] ++ (ds ++ .text '@' :: rs)) := h.solid.right
  have hsolid : Solid ds := hrest.right.left
  have hl : LocalPart (source ds) := ⟨fun hnil => hds (hsolid.eq_nil hnil), hlocal⟩
  have hfirst := boundary_after_found h
  rw [source_append ds, hl.head] at hfirst
  have hfits : addressPattern.Fits (before none (source (qs ++ [.found m])))
      (source ds ++ '@' :: v) x := fits_address.mpr ⟨_, v, rfl, hl, hdomain, hfirst, hlast⟩
  rw [List.append_cons] at h
  obtain ⟨m', bs, hm⟩ := h.taken_of_fits (by simp) (by simp [hv]) hfits
  obtain ⟨d, ds, rfl⟩ := List.exists_cons_of_ne_nil hds
  rw [List.cons_append] at hm h
  obtain ⟨rfl, -⟩ := List.cons.inj hm
  exact hl.at_notMem (List.mem_append_left _ (found_at h))

/-- Where the pattern can take an address around an `@`, the `@` is passed over only because its
    local part is lost to the address before. -/
theorem lost_to_last {text : List Char} {qs rs : List (Piece Char)}
    (h : Scans addressPattern none text (qs ++ .text '@' :: rs)) (hs : Opens (source qs))
    (hr : Closes (source rs)) : ∃ qs' m, qs = qs' ++ [.found m] := by
  obtain ⟨b, l, hsource, hl, hfirst⟩ := hs
  have htext : source (qs ++ .text '@' :: rs) = b ++ (l ++ '@' :: source rs) := by
    rw [source_append, source_text, hsource, List.append_assoc]
  have hsolid := h.solid
  rcases exists_cut htext with ⟨as, bs, hcut, has, hbs⟩ | ⟨as, w₁, w₂, bs, hcut, -, -, has, -⟩
  · -- the scan looks where the local part begins, and finds an address with this `@`
    exfalso
    obtain ⟨v, x, hv, hdomain, hlast⟩ := hr
    rw [hcut] at h hsolid
    have hfits : addressPattern.Fits (before none (source as)) (l ++ '@' :: v) x := by
      rw [before_none, has]
      exact fits_address.mpr ⟨l, v, rfl, hl, hdomain, hfirst, hlast⟩
    obtain ⟨m, bs, rfl⟩ := h.taken_of_fits (by simp) (by simpa [hv] using hbs) hfits
    obtain ⟨ds, rfl⟩ := hsolid.extends hcut.symm (by rw [has, hsource]; simp)
    rw [List.append_assoc, List.append_cancel_left_eq] at hcut
    cases ds with
    | nil => cases hcut
    | cons d ds =>
      obtain ⟨rfl, -⟩ := List.cons.inj hcut
      rw [source_append, has, List.append_cancel_left_eq, source_found] at hsource
      exact hl.at_notMem (hsource ▸ List.mem_append_left _ (found_at h))
  · -- the local part begins inside the address before, of which nothing may be left
    rw [hcut] at hsolid
    obtain ⟨ds, rfl⟩ := hsolid.extends hcut.symm (by rw [hsource, ← has]; simp)
    rw [List.append_assoc, List.append_cancel_left_eq] at hcut
    cases ds with
    | nil => cases hcut
    | cons d ds =>
      rw [List.cons_append] at hcut
      obtain ⟨rfl, rfl⟩ := List.cons.inj hcut
      have hlocal : w₂ ++ source ds = l := by
        rw [source_append, source_found, ← has] at hsource
        simpa using hsource
      rw [List.append_assoc, List.cons_append] at h
      have hnil := nothing_between h
        (fun c hc => hl.2 c (hlocal ▸ List.mem_append_right _ hc)) hr
      exact ⟨as, w₁ ++ w₂, by rw [hnil]⟩

/-- A match that contains the `@` at a place. -/
theorem found_around {text s r : List Char} {ps : List (Piece Char)}
    (h : Scans addressPattern none text ps) (htext : text = s ++ '@' :: r) :
    (∃ qs rs, ps = qs ++ .text '@' :: rs ∧ source qs = s ∧ source rs = r) ∨
      ∃ qs l v rs, ps = qs ++ .found (l ++ '@' :: v) :: rs ∧ LocalPart l ∧ DomainPart v ∧
        wordBoundary (source qs).getLast? l.head? = true ∧ (source rs).head?.any isWord = false ∧
        source qs ++ l = s ∧ v ++ source rs = r := by
  rw [← h.source_eq] at htext
  rcases exists_cut htext with ⟨qs, bs, rfl, rfl, hbs⟩ | ⟨qs, w₁, w₂, rs, rfl, -, hw₂, rfl, hrs⟩
  · cases bs with
    | nil => cases hbs
    | cons x rs =>
      cases x with
      | text c =>
        obtain ⟨rfl, rfl⟩ := List.cons.inj hbs
        exact Or.inl ⟨qs, rs, rfl, rfl, rfl⟩
      | found m =>
        -- no match begins with an `@`
        obtain ⟨l, v, rfl, hl, -⟩ := found_address h
        obtain ⟨c, l, rfl⟩ := List.exists_cons_of_ne_nil hl.1
        obtain ⟨rfl, -⟩ := List.cons.inj hbs
        exact absurd List.mem_cons_self hl.at_notMem
  · obtain ⟨l, v, hm, hl, hv, hfirst, hlast⟩ := found_address h
    obtain ⟨c, w₂, rfl⟩ := List.exists_cons_of_ne_nil hw₂
    obtain ⟨rfl, rfl⟩ := List.cons.inj hrs
    obtain ⟨rfl, rfl⟩ := at_unique hl.at_notMem hv.at_notMem hm.symm
    exact Or.inr ⟨qs, l, v, rs, rfl, hl, hv, hfirst, hlast, rfl, rfl⟩

/-- The address before an `@` is hidden up to it. -/
theorem found_ends_iff {text s r : List Char} {ps : List (Piece Char)}
    (h : Scans addressPattern none text ps) (htext : text = s ++ '@' :: r) :
    (∃ qs m rs, ps = qs ++ .found m :: rs ∧ source qs ++ m = s) ↔ EndsHidden s := by
  induction hn : s.length using Nat.strong_induction_on generalizing s r with
  | _ n ih =>
    rw [EndsHidden]
    constructor
    · rintro ⟨qs, m, rs, rfl, hs⟩
      obtain ⟨l, v, rfl, hl, hv, hfirst, -⟩ := found_address h
      have hsplit : s = (source qs ++ l) ++ '@' :: v := by rw [← hs, List.append_assoc]
      refine ⟨source qs ++ l, v, hsplit, hv, ⟨source qs, l, rfl, hl, hfirst⟩, ?_⟩
      -- a match that ended at the local part would overlap this one
      rw [← ih (source qs ++ l).length (by rw [← hn, hsplit]; simp)
        (by rw [htext, hsplit, List.append_assoc, List.cons_append]) rfl]
      rintro ⟨qs', m', rs', hps, hends⟩
      rw [List.append_cons qs'] at hps
      have hle : (source qs).length ≤ (source (qs' ++ [.found m'])).length := by
        rw [source_append, source_found, source_nil, List.append_nil, hends]
        simp
      obtain ⟨ds, hds⟩ := h.solid.extends hps hle
      rw [hds, List.append_assoc, List.append_cancel_left_eq] at hps
      have hsource : source qs ++ source ds = source qs ++ l := by
        rw [← source_append, ← hds, ← hends, source_append, source_found, source_nil,
          List.append_nil]
      rw [List.append_cancel_left_eq] at hsource
      cases ds with
      | nil => exact hl.1 hsource.symm
      | cons d ds =>
        rw [List.cons_append] at hps
        obtain ⟨rfl, -⟩ := List.cons.inj hps
        have hmem : '@' ∈ source (.found (l ++ '@' :: v) :: ds) := by simp
        rw [hsource] at hmem
        exact hl.at_notMem hmem
    · rintro ⟨b, v, hs, hv, hopens, hnot⟩
      have htext' : text = b ++ '@' :: (v ++ '@' :: r) := by
        rw [htext, hs, List.append_assoc, List.cons_append]
      rcases found_around h htext' with ⟨qs, rs, rfl, rfl, hrs⟩ |
        ⟨qs, l, v', rs, rfl, hl, hv', hfirst, -, rfl, hrs⟩
      · -- passed over, although an address can be taken: its local part is lost
        exfalso
        have hcloses : Closes (source rs) := ⟨v, '@' :: r, hrs, hv, isWord_at⟩
        obtain ⟨qs', m, rfl⟩ := lost_to_last h hopens hcloses
        refine hnot ((ih (source (qs' ++ [.found m])).length (by rw [← hn, hs]; simp) htext' rfl).mp
          ⟨qs', m, .text '@' :: rs, by simp, by simp⟩)
      · -- the match goes on as far as it can, and stops at the `@`
        have hfind := h.find_found
        rw [before_none] at hfind
        have hfits : addressPattern.Fits (source qs).getLast? (l ++ '@' :: v) ('@' :: r) :=
          fits_address.mpr ⟨l, v, rfl, hl, hv, hfirst, isWord_at⟩
        have hwhole : l ++ '@' :: v' ++ source rs = l ++ '@' :: v ++ '@' :: r := by
          rw [List.append_assoc, List.cons_append, hrs, List.append_assoc, List.cons_append]
        rw [hwhole] at hfind
        have hle := address_longest hfind hfits
        simp only [List.length_append, List.length_cons] at hle
        have hv_eq : v' = v := by
          rcases List.append_eq_append_iff.mp hrs with ⟨e, rfl, -⟩ | ⟨e, rfl, htail⟩
          · rw [List.length_append] at hle
            obtain rfl : e = [] := List.length_eq_zero_iff.mp (by omega)
            rw [List.append_nil]
          · cases e with
            | nil => rw [List.append_nil]
            | cons c e =>
              obtain ⟨rfl, -⟩ := List.cons.inj htail
              exact absurd (List.mem_append_right v List.mem_cons_self) hv'.at_notMem
        subst hv_eq
        exact ⟨qs, _, rs, rfl, by rw [hs, List.append_assoc]⟩

end Address

/-! ### What is left after a pass -/

/-- A mobile number at a place: the digits around it belong to it. -/
def IsMobileNumber [CharacterClasses] (prev : Option Char) (w : List Char) (next : Option Char) :
    Prop :=
  List.Forall₂ (fun q c => q c = true) mobileNumber w ∧ prev.any isDigit = false ∧
    next.any isDigit = false

/-- A text in which a mobile number is written. -/
def HasMobileNumber [CharacterClasses] (text : List Char) : Prop :=
  ∃ a w b, text = a ++ (w ++ b) ∧ IsMobileNumber a.getLast? w b.head?

/-- A text in which an address is written, whatever stands around it. -/
def HasAddress (text : List Char) : Prop := ∃ a w b, text = a ++ (w ++ b) ∧ IsAddress w

theorem hiddenMarker_ne_nil : hiddenMarker ≠ [] := by decide

theorem marker_clear : ∀ c ∈ hiddenMarker, isLocal c = false ∧ c ≠ '@' := by
  have hall : hiddenMarker.all (fun c => !isLocal c && c != '@') = true := by decide +kernel
  simpa using List.all_eq_true.mp hall

theorem IsAddress.clear {w : List Char} (h : IsAddress w) : ∀ c ∈ w, c ∉ hiddenMarker := by
  obtain ⟨l, v, rfl, hl, hv⟩ := h
  intro c hc hmarker
  obtain ⟨hlocal, hat⟩ := marker_clear c hmarker
  rcases List.mem_append.mp hc with hc | hc
  · rw [hl.2 c hc] at hlocal
    cases hlocal
  · rcases List.mem_cons.mp hc with rfl | hc
    · exact hat rfl
    · rw [hv.isLocal c hc] at hlocal
      cases hlocal

section Passes

variable [CharacterClasses]

/-- A domain that gives way to the address after it is not passed over: the scan finds that address
    at the letters after the dot at the latest. -/
theorem not_passed_of_givesWay {text v : List Char} {qs rs : List (Piece Char)}
    (h : Scans addressPattern none text (qs ++ (v.map .text ++ rs))) (hv : DomainPart v)
    (hr : GivesWay (v ++ source rs)) : False := by
  obtain ⟨l, x, hr, hl, v', x, rfl, hv', hlast⟩ := hr
  obtain ⟨y, rfl, hy⟩ : ∃ y, l = v ++ y ∧ source rs = y ++ '@' :: (v' ++ x) := by
    rcases List.append_eq_append_iff.mp hr with h | ⟨bs, hbs, htail⟩
    · exact h
    · cases bs with
      | nil => exact ⟨[], by simpa using hbs.symm, htail.symm⟩
      | cons b bs =>
        obtain ⟨rfl, -⟩ := List.cons.inj htail
        exact absurd (hbs ▸ List.mem_append_right _ List.mem_cons_self) hv.at_notMem
  obtain ⟨d, t, rfl, -, htlength, ht⟩ := hv
  have hne : t ≠ [] := List.length_pos_iff.mp (by omega)
  obtain ⟨c, t, rfl⟩ := List.exists_cons_of_ne_nil hne
  have hlocal : LocalPart ((c :: t) ++ y) := by
    refine ⟨List.cons_ne_nil _ _, fun e he => hl e ?_⟩
    rw [List.append_assoc, List.cons_append]
    exact List.mem_append_right _ (List.mem_cons_of_mem _ he)
  have hdot : qs ++ ((d ++ '.' :: c :: t).map .text ++ rs) =
      (qs ++ d.map .text ++ [.text '.']) ++ ((c :: t).map .text ++ rs) := by simp
  rw [hdot] at h
  have hfirst : wordBoundary (before none (source (qs ++ d.map .text ++ [.text '.'])))
      ((c :: t) ++ y).head? = true := by
    rw [before_none, source_append, source_text, source_nil, List.getLast?_concat, wordBoundary,
      Option.any_some, isWord_dot, List.cons_append, List.head?_cons, Option.any_some,
      isWord_of_isLetter (ht c List.mem_cons_self)]
    rfl
  obtain ⟨m, rs', hm⟩ := h.taken_of_fits (by simp) (by simp [hy])
    (fits_address.mpr ⟨_, v', rfl, hlocal, hv', hfirst, hlast⟩)
  cases hm

theorem reached_of_noAddress {text : List Char} {ps : List (Piece Char)}
    (h : Scans addressPattern none text ps) (hnone : ¬ HasAddress (substitute hiddenMarker ps)) :
    Reached text := by
  intro s r htext hlast hafter
  by_contra hmissed
  simp only [not_or, not_and] at hmissed
  obtain ⟨hsides, hends, hgives⟩ := hmissed
  obtain ⟨c, hc, hlocal⟩ := hlast
  obtain ⟨v, x, hr, hv⟩ := hafter
  rcases found_around h htext with ⟨qs, rs, rfl, rfl, rfl⟩ |
    ⟨qs, l, v', rs, rfl, hl, hv', hfirst, hlast, rfl, rfl⟩
  · -- the character before is passed over as well, and so is the domain
    obtain ⟨qs, y, rfl⟩ : ∃ qs' y, qs = qs' ++ [y] := by
      refine (List.eq_nil_or_concat' qs).resolve_left ?_
      rintro rfl
      cases hc
    cases y with
    | found m =>
      exact hends ((found_ends_iff h htext).mp ⟨qs, m, .text '@' :: rs, by simp, by simp⟩)
    | text d =>
      have hd : d = c := by
        rw [source_append, source_text, source_nil, List.getLast?_concat] at hc
        exact Option.some.inj hc
      subst hd
      rcases passed_or_found hr with ⟨rs, rfl, -⟩ | ⟨v₁, v₂, m, rs, rfl, -, rfl⟩
      · refine hnone ⟨substitute hiddenMarker qs, [d] ++ '@' :: v, substitute hiddenMarker rs,
          by simp, [d], v, rfl, ⟨List.cons_ne_nil _ _, ?_⟩, hv⟩
        intro e he
        rwa [List.mem_singleton.mp he]
      · -- a match that begins in the domain gives way to the address after
        refine hgives ?_
        rw [List.append_cons, ← List.append_assoc] at h
        obtain ⟨l, v', rfl, hl, hv', -, hlast⟩ := found_address h
        refine ⟨v₁ ++ l, v' ++ source rs, by simp, ?_, v', source rs, rfl, hv', hlast⟩
        intro e he
        rcases List.mem_append.mp he with he | he
        · exact hv.isLocal e (List.mem_append_left _ he)
        · exact hl.2 e he
  · exact hsides ⟨source qs, l, rfl, hl, hfirst⟩ ⟨v', source rs, rfl, hv', hlast⟩

theorem noAddress_of_reached {text : List Char} {ps : List (Piece Char)}
    (h : Scans addressPattern none text ps) (hreached : Reached text) :
    ¬ HasAddress (substitute hiddenMarker ps) := by
  rintro ⟨a, w, b, hmarked, hw⟩
  have hclear := hw.clear
  obtain ⟨l, v, rfl, hl, hv⟩ := hw
  obtain ⟨qs, rs, rfl, -, -⟩ := passed_of_occurs hiddenMarker_ne_nil hmarked (by simp) hclear
  have hat : qs ++ ((l ++ '@' :: v).map .text ++ rs) =
      (qs ++ l.map .text) ++ .text '@' :: (v.map .text ++ rs) := by simp
  rw [hat] at h
  have htext : text = (source qs ++ l) ++ '@' :: (v ++ source rs) := by
    rw [← h.source_eq]
    simp
  -- the local part ends with a character that is passed over
  obtain ⟨l, c, rfl⟩ := (List.eq_nil_or_concat' l).resolve_left hl.1
  have hnot : ∀ qs' m, qs ++ (l ++ [c]).map .text ≠ qs' ++ [.found m] := by
    intro qs' m heq
    rw [List.map_append, ← List.append_assoc] at heq
    cases (List.append_inj' heq rfl).2
  rcases hreached _ _ htext ⟨c, by simp, hl.2 c (by simp)⟩ ⟨v, source rs, rfl, hv⟩ with
    ⟨hopens, hcloses⟩ | hends | hgives
  · obtain ⟨qs', m, heq⟩ := lost_to_last h (by simpa using hopens) (by simpa using hcloses)
    exact hnot qs' m heq
  · obtain ⟨qs', m, rs', hps, hsource⟩ := (found_ends_iff h htext).mpr hends
    rw [hps, List.append_cons] at h
    rw [List.append_cons qs'] at hps
    exact hnot qs' m (h.solid.cut_unique hps.symm (by simpa using hsource)).symm
  · rw [List.append_cons] at h
    exact not_passed_of_givesWay h hv hgives

/-- An address is left by a pass exactly when there is one that the pass does not reach. -/
theorem noAddress_iff {text : List Char} {ps : List (Piece Char)}
    (h : Scans addressPattern none text ps) :
    ¬ HasAddress (substitute hiddenMarker ps) ↔ Reached text :=
  ⟨reached_of_noAddress h, noAddress_of_reached h⟩

/-! ### Mobile numbers -/

theorem fits_mobile {prev : Option Char} {w rest : List Char} :
    mobilePattern.Fits prev w rest ↔ IsMobileNumber prev w rest.head? := by
  simp only [mobilePattern, Fits, fits_each, IsMobileNumber, Bool.not_eq_true']
  constructor
  · rintro ⟨-, -, rfl, ⟨hprev, rfl⟩, w, -, rfl, hw, hnext, rfl⟩
    exact ⟨by simpa using hw, hprev, hnext⟩
  · rintro ⟨hw, hprev, hnext⟩
    exact ⟨[], w, rfl, ⟨hprev, rfl⟩, w, [], (List.append_nil w).symm, hw, hnext, rfl⟩

theorem IsMobileNumber.digits {prev next : Option Char} {w : List Char}
    (h : IsMobileNumber prev w next) : ∀ c ∈ w, isDigit c = true := by
  obtain ⟨hw, -⟩ := h
  have hclass : ∀ q ∈ mobileNumber, ∀ c, q c = true → isDigit c = true := by
    intro q hq c hc
    have hascii : c.isDigit = true → isDigit c = true := fun hdigit => by
      rw [CharacterClasses.ascii_digit c (by have := toNat_le_of_isDigit hdigit; omega), hdigit]
    rcases List.mem_cons.mp hq with rfl | hq
    · obtain rfl : c = '1' := of_decide_eq_true hc
      exact hascii (by decide)
    · rcases List.mem_cons.mp hq with rfl | hq
      · obtain ⟨hthree, hnine⟩ := of_decide_eq_true hc
        refine hascii ?_
        rw [Char.isDigit, Bool.and_eq_true, decide_eq_true_eq, decide_eq_true_eq]
        exact ⟨UInt32.le_trans (by decide : ('0' : Char).val ≤ ('3' : Char).val) hthree, hnine⟩
      · rw [(List.mem_replicate.mp hq).2] at hc
        exact hc
  intro c hc
  obtain ⟨i, hi, rfl⟩ := List.getElem_of_mem hc
  have hlength := hw.length_eq
  exact hclass _ (List.getElem_mem (by omega)) _ (hw.get (by omega) hi)

theorem IsMobileNumber.ne_nil {prev next : Option Char} {w : List Char}
    (h : IsMobileNumber prev w next) : w ≠ [] := by
  rintro rfl
  cases h.1

theorem mobile_consumes : (mobilePattern).Consumes := fun _ _ _ h => (fits_mobile.mp h).ne_nil

theorem address_consumes : (addressPattern).Consumes := fun _ _ _ h => by
  obtain ⟨l, v, rfl, -⟩ := fits_address.mp h
  simp

theorem marker_not_digit : ∀ c ∈ hiddenMarker, isDigit c = false := by
  have hkinds : hiddenMarker.all (fun c =>
      decide ((c.toNat < 128 ∧ (c.isAlphanum || c = '_') = false) ∨
        (0x4E00 ≤ c.toNat ∧ c.toNat ≤ 0x9FA5))) = true := by decide +kernel
  intro c hc
  rcases of_decide_eq_true (List.all_eq_true.mp hkinds c hc) with ⟨hascii, hout⟩ | ⟨hlow, hhigh⟩
  · exact isDigit_of_not_isWord (isWord_ascii hascii hout)
  · exact (CharacterClasses.ideograph c hlow hhigh).2

theorem IsMobileNumber.clear {prev next : Option Char} {w : List Char}
    (h : IsMobileNumber prev w next) : ∀ c ∈ w, c ∉ hiddenMarker := by
  intro c hc hmarker
  have hdigit := h.digits c hc
  rw [marker_not_digit c hmarker] at hdigit
  cases hdigit

/-- A digit stands at each end of a mobile number. -/
theorem IsMobileNumber.ends {prev next : Option Char} {w : List Char}
    (h : IsMobileNumber prev w next) :
    w.head?.any isDigit = true ∧ w.getLast?.any isDigit = true := by
  rw [List.head?_eq_some_head h.ne_nil, List.getLast?_eq_some_getLast h.ne_nil]
  exact ⟨h.digits _ (List.head_mem _), h.digits _ (List.getLast_mem _)⟩

/-- The first pass leaves no mobile number. -/
theorem noNumber_first {text : List Char} {ps : List (Piece Char)}
    (h : Scans mobilePattern none text ps) :
    ¬ HasMobileNumber (substitute hiddenMarker ps) := by
  rintro ⟨a, w, b, hmarked, hw⟩
  obtain ⟨qs, rs, rfl, rfl, rfl⟩ :=
    passed_of_occurs hiddenMarker_ne_nil hmarked hw.ne_nil hw.clear
  -- a match beside it would have a digit after or before it
  have hbefore : ∀ qs' m, qs ≠ qs' ++ [.found m] := by
    rintro qs' m rfl
    rw [List.append_assoc, List.singleton_append] at h
    have hnext := (fits_mobile.mp h.fits_found).2.2
    obtain ⟨c, w', rfl⟩ := List.exists_cons_of_ne_nil hw.ne_nil
    have hdigit := hw.digits c List.mem_cons_self
    simp only [List.map_cons, List.cons_append, source_text, List.head?_cons,
      Option.any_some] at hnext
    rw [hdigit] at hnext
    cases hnext
  have hafter : ∀ m rs', rs ≠ .found m :: rs' := by
    rintro m rs' rfl
    rw [← List.append_assoc] at h
    have hprev := (fits_mobile.mp h.fits_found).2.1
    rw [before_none, source_append, source_map_text,
      List.getLast?_append_of_ne_nil _ hw.ne_nil, hw.ends.2] at hprev
    cases hprev
  rw [getLast_substitute hbefore, head_substitute hafter, ← before_none] at hw
  obtain ⟨m, rs', hm⟩ := h.taken_of_fits hw.ne_nil (by simp) (fits_mobile.mpr hw)
  obtain ⟨c, w, rfl⟩ := List.exists_cons_of_ne_nil hw.ne_nil
  cases hm

/-- Nor does the second make one. -/
theorem noNumber_second {text : List Char} {ps : List (Piece Char)}
    (h : Scans addressPattern none text ps) (hnone : ¬ HasMobileNumber text) :
    ¬ HasMobileNumber (substitute hiddenMarker ps) := by
  rintro ⟨a, w, b, hmarked, hw⟩
  obtain ⟨qs, rs, rfl, rfl, rfl⟩ :=
    passed_of_occurs hiddenMarker_ne_nil hmarked hw.ne_nil hw.clear
  obtain ⟨c, w', hwc⟩ := List.exists_cons_of_ne_nil hw.ne_nil
  have hbefore : ∀ qs' m, qs ≠ qs' ++ [.found m] := by
    rintro qs' m rfl
    rw [List.append_assoc, List.singleton_append] at h
    obtain ⟨-, -, -, -, -, -, hlast⟩ := found_address h
    have hword := CharacterClasses.digit_word c (hw.digits c (hwc ▸ List.mem_cons_self))
    subst hwc
    simp only [List.map_cons, List.cons_append, source_text, List.head?_cons,
      Option.any_some] at hlast
    rw [hword] at hlast
    cases hlast
  refine hnone ⟨source qs, w, source rs, ?_, hw.1, ?_, ?_⟩
  · rw [← h.source_eq]
    simp
  · rw [← getLast_substitute hbefore]
    exact hw.2.1
  · by_cases hafter : ∀ m rs', rs ≠ .found m :: rs'
    · rw [← head_substitute hafter]
      exact hw.2.2
    · -- a match after it begins with no word character
      simp only [ne_eq, not_forall, not_not] at hafter
      obtain ⟨m, rs', rfl⟩ := hafter
      rw [← List.append_assoc] at h
      obtain ⟨l, v, rfl, hl, -, hfirst, -⟩ := found_address h
      rw [source_append, source_map_text, List.getLast?_append_of_ne_nil _ hw.ne_nil] at hfirst
      have hnext := any_isDigit (next_of_boundary hfirst (any_isWord hw.ends.2))
      rwa [source_found, List.append_assoc, hl.head]

/-! ### A second redaction -/

/-- The address pattern matches nowhere in what its pass leaves. -/
theorem noMatch_second {text : List Char} {ps : List (Piece Char)}
    (h : Scans addressPattern none text ps) :
    matches? (scan addressPattern (substitute hiddenMarker ps)) = [] := by
  by_contra hfound
  obtain ⟨qs', m, rs', hscan⟩ := exists_found hfound
  have h' := scan_scans address_consumes (substitute hiddenMarker ps)
  rw [hscan] at h'
  obtain ⟨l, v, rfl, hl, hv, hfirst, hlast⟩ := found_address h'
  have hmarked : substitute hiddenMarker ps = source qs' ++ (l ++ '@' :: v ++ source rs') := by
    rw [← h'.source_eq, source_append, source_found]
  have hclear : ∀ c ∈ l ++ '@' :: v, c ∉ hiddenMarker := IsAddress.clear ⟨l, v, rfl, hl, hv⟩
  obtain ⟨qs, rs, rfl, hqs, hrs⟩ :=
    passed_of_occurs hiddenMarker_ne_nil hmarked (by simp) hclear
  rw [← hqs] at hfirst
  rw [← hrs] at hlast
  have hhead : (source ((l ++ '@' :: v).map .text ++ rs)).head? = l.head? := by
    rw [source_append, source_map_text, List.append_assoc, hl.head]
  have hbefore : ∀ qs₁ m₁, qs ≠ qs₁ ++ [.found m₁] := by
    rintro qs₁ m₁ rfl
    rw [List.append_assoc, List.singleton_append] at h
    -- after a match no word character stands, and none after its marker either
    obtain ⟨-, -, -, -, -, -, hend⟩ := found_address h
    rw [hhead] at hend
    rw [substitute_append, substitute_found, substitute_nil, List.append_nil,
      List.getLast?_append_of_ne_nil _ hiddenMarker_ne_nil] at hfirst
    have hclose : hiddenMarker.getLast? = some ']' := by decide
    rw [hclose, wordBoundary, hend, Option.any_some, isWord_close] at hfirst
    cases hfirst
  have hend : (source rs).head?.any isWord = false := by
    by_cases hafter : ∀ m rs', rs ≠ .found m :: rs'
    · rwa [head_substitute hafter] at hlast
    · simp only [ne_eq, not_forall, not_not] at hafter
      obtain ⟨m, rs₁, rfl⟩ := hafter
      rw [← List.append_assoc] at h
      obtain ⟨l₁, v₁, rfl, hl₁, -, hboundary, -⟩ := found_address h
      obtain ⟨c, hc, hletter⟩ := hv.getLast
      have hword : (source (qs ++ (l ++ '@' :: v).map .text)).getLast?.any isWord = true := by
        rw [source_append, source_map_text, List.getLast?_append_of_ne_nil _ (by simp),
          List.getLast?_append_of_ne_nil _ (List.cons_ne_nil _ _),
          List.getLast?_cons_of_ne_nil hv.ne_nil, hc]
        exact isWord_of_isLetter hletter
      rw [source_found, List.append_assoc, hl₁.head]
      exact next_of_boundary hboundary hword
  rw [getLast_substitute hbefore] at hfirst
  have hrest : source ((l ++ '@' :: v).map .text ++ rs) = (l ++ '@' :: v) ++ source rs := by
    rw [source_append, source_map_text]
  obtain ⟨m, rs₁, hm⟩ := h.taken_of_fits (by simp) hrest
    (fits_address.mpr ⟨l, v, rfl, hl, hv, by rwa [before_none], hend⟩)
  obtain ⟨c, l, rfl⟩ := List.exists_cons_of_ne_nil hl.1
  cases hm

/-! ### Both passes -/

/-- The text with its mobile numbers hidden, which the address pass is given. -/
def hideNumbers (text : List Char) : List Char := (subn mobilePattern text).1

theorem redact_eq (text : List Char) :
    redactPersonalData text = ((subn addressPattern (hideNumbers text)).1,
      (subn mobilePattern text).2 || (subn addressPattern (hideNumbers text)).2) := rfl

/-- Parts of `text` are replaced by the marker, and each is such a part as `P` says, between the
    characters beside it. -/
def Hides (P : Option Char → List Char → Option Char → Prop) (text hidden : List Char) : Prop :=
  ∃ ps, source ps = text ∧ substitute hiddenMarker ps = hidden ∧
    ∀ qs w rs, ps = qs ++ .found w :: rs → P (source qs).getLast? w (source rs).head?

theorem hides_numbers (text : List Char) : Hides IsMobileNumber text (hideNumbers text) := by
  have h := scan_scans mobile_consumes text
  refine ⟨scan mobilePattern text, h.source_eq, rfl, fun qs w rs hps => ?_⟩
  rw [hps] at h
  have hw := fits_mobile.mp h.fits_found
  rwa [before_none] at hw

theorem hides_addresses (text : List Char) :
    Hides (fun _ w _ => IsAddress w) text (subn addressPattern text).1 := by
  have h := scan_scans address_consumes text
  refine ⟨scan addressPattern text, h.source_eq, rfl, fun qs w rs hps => ?_⟩
  rw [hps] at h
  obtain ⟨l, v, rfl, hl, hv, -, -⟩ := found_address h
  exact ⟨l, v, rfl, hl, hv⟩

omit [CharacterClasses] in
/-- A pass without a match leaves the text as it is. -/
theorem subn_of_none {p : Pattern Char} (hp : p.Consumes) {text : List Char}
    (h : (subn p text).2 = false) : (subn p text).1 = text := by
  have hnone : matches? (scan p text) = [] := by
    simpa [subn] using h
  exact (substitute_of_none hnone).trans (scan_scans hp text).source_eq

/-- A match of the first pass is a mobile number. -/
theorem number_of_found {text : List Char} (h : (subn mobilePattern text).2 = true) :
    HasMobileNumber text := by
  obtain ⟨qs, m, rs, hps⟩ := exists_found (of_decide_eq_true h)
  obtain ⟨ps, rfl, -, hall⟩ := hides_numbers text
  have hscan := scan_scans mobile_consumes (source ps)
  rw [hps] at hscan
  have hw := fits_mobile.mp hscan.fits_found
  rw [before_none] at hw
  exact ⟨source qs, m, source rs, by rw [← hscan.source_eq, source_append, source_found], hw⟩

/-- A match of the second pass is an address that the message had from the beginning. -/
theorem address_of_found {text : List Char}
    (h : (subn addressPattern (hideNumbers text)).2 = true) : HasAddress text := by
  obtain ⟨qs, m, rs, hps⟩ := exists_found (of_decide_eq_true h)
  have hscan := scan_scans address_consumes (hideNumbers text)
  rw [hps] at hscan
  obtain ⟨l, v, rfl, hl, hv, -, -⟩ := found_address hscan
  have hw : IsAddress (l ++ '@' :: v) := ⟨l, v, rfl, hl, hv⟩
  obtain ⟨ps, htext, hhidden, -⟩ := hides_numbers text
  have hmarked : substitute hiddenMarker ps = source qs ++ (l ++ '@' :: v ++ source rs) := by
    rw [hhidden, ← hscan.source_eq, source_append, source_found]
  obtain ⟨qs', rs', rfl, -, -⟩ :=
    passed_of_occurs hiddenMarker_ne_nil hmarked (by simp) hw.clear
  exact ⟨source qs', _, source rs', by rw [← htext]; simp, hw⟩

theorem noNumber_left (text : List Char) : ¬ HasMobileNumber (redactPersonalData text).1 :=
  noNumber_second (scan_scans address_consumes _) (noNumber_first (scan_scans mobile_consumes text))

theorem redact_again (text : List Char) :
    (redactPersonalData (redactPersonalData text).1).1 = (redactPersonalData text).1 := by
  have hnumbers : hideNumbers (redactPersonalData text).1 = (redactPersonalData text).1 := by
    refine subn_of_none mobile_consumes (Bool.eq_false_iff.mpr fun hfound => ?_)
    exact noNumber_left text (number_of_found hfound)
  rw [redact_eq, hnumbers]
  refine subn_of_none address_consumes ?_
  have hnone := noMatch_second (scan_scans address_consumes (hideNumbers text))
  exact decide_eq_false (not_not.mpr hnone)

/-- Nothing is flagged only where nothing is replaced. -/
theorem redact_of_unflagged {text : List Char} (h : (redactPersonalData text).2 = false) :
    (redactPersonalData text).1 = text := by
  rw [redact_eq, Bool.or_eq_false_iff] at h
  rw [redact_eq]
  exact (subn_of_none address_consumes h.2).trans (subn_of_none mobile_consumes h.1)

/-- The triage looks for both patterns in the message itself, and finds as much. -/
theorem flag_eq_triage [CaseFolding] (content : String) (orderIds : List String) :
    "unnecessary_personal_data" ∈ deterministicRiskFlags content orderIds ↔
      (redactPersonalData content.toList).2 = true := by
  have hflag : "unnecessary_personal_data" ∈ deterministicRiskFlags content orderIds ↔
      searches mobilePattern content = true ∨ searches addressPattern content = true := by
    rw [deterministicRiskFlags, List.mem_filter, decide_eq_true_eq]
    simp only [piiPatterns, List.any_cons, List.any_nil, Bool.or_false, Bool.or_eq_true,
      List.mem_append, List.mem_ite_nil_right, List.mem_singleton, String.reduceEq, and_false,
      false_or, and_true]
    simp [knownRiskFlags]
  rw [hflag, redact_eq, Bool.or_eq_true]
  cases hmobile : (subn mobilePattern content.toList).2 with
  | true => exact ⟨fun _ => Or.inl rfl, fun _ => Or.inl hmobile⟩
  | false =>
    rw [hideNumbers, subn_of_none mobile_consumes hmobile]
    exact or_congr (by rw [← hmobile]; rfl) Iff.rfl

/-! ### The message as it is stored -/

/-- No personal data survives, the flag says whether there was some, and nothing else changes. -/
structure PersonalDataHidden [CaseFolding] (v : Triage.ValidatedMessage) : Prop where
  noNumber : ¬ HasMobileNumber v.traceContent.toList
  noAddress : ¬ HasAddress v.traceContent.toList
  flagged : v.hadUnnecessaryPersonalData = true ↔
    HasMobileNumber v.content.toList ∨ HasAddress v.content.toList
  agrees : v.hadUnnecessaryPersonalData = true ↔ "unnecessary_personal_data" ∈
    deterministicRiskFlags v.content (literalOrderIds v.content)
  outside : ∃ between, Hides IsMobileNumber v.content.toList between ∧
    Hides (fun _ w _ => IsAddress w) between v.traceContent.toList
  again : (redactPersonalData v.traceContent.toList).1 = v.traceContent.toList

theorem validated_trace {content : String} {maxChars : Nat} {v : Triage.ValidatedMessage}
    (h : Triage.validateCustomerMessage content maxChars = .ok v) :
    v.traceContent.toList = (redactPersonalData v.content.toList).1 ∧
      v.hadUnnecessaryPersonalData = (redactPersonalData v.content.toList).2 := by
  unfold Triage.validateCustomerMessage at h
  generalize stripText content = normalized at h
  dsimp only at h
  split_ifs at h
  have hv := Except.ok.inj h
  rw [← hv]
  exact ⟨String.toList_ofList, rfl⟩

/-- No personal data survives in exactly the messages in which, once the mobile numbers are hidden,
    the address pattern reaches every address. -/
theorem personalDataHidden_iff [CaseFolding] (content : String) (maxChars : Nat)
    (v : Triage.ValidatedMessage)
    (h : Triage.validateCustomerMessage content maxChars = .ok v) :
    PersonalDataHidden v ↔ Reached (hideNumbers v.content.toList) := by
  obtain ⟨htrace, hflag⟩ := validated_trace h
  have hreached : ¬ HasAddress v.traceContent.toList ↔ Reached (hideNumbers v.content.toList) := by
    rw [htrace]
    exact noAddress_iff (scan_scans address_consumes _)
  refine ⟨fun hhidden => hreached.mp hhidden.noAddress, fun hall => ?_⟩
  have hnoNumber : ¬ HasMobileNumber v.traceContent.toList := by
    rw [htrace]
    exact noNumber_left _
  have hnoAddress := hreached.mpr hall
  refine ⟨hnoNumber, hnoAddress, ?_, ?_, ⟨hideNumbers v.content.toList, hides_numbers _, ?_⟩, ?_⟩
  · rw [hflag]
    constructor
    · intro hfound
      rw [redact_eq, Bool.or_eq_true] at hfound
      exact hfound.imp number_of_found address_of_found
    · -- what is not flagged is not changed, and so has nothing to hide
      intro hpersonal
      by_contra hunflagged
      have hsame := redact_of_unflagged (Bool.eq_false_iff.mpr hunflagged)
      rw [← hsame, ← htrace] at hpersonal
      exact hpersonal.elim hnoNumber hnoAddress
  · rw [hflag]
    exact (flag_eq_triage _ _).symm
  · rw [htrace]
    exact hides_addresses _
  · rw [htrace]
    exact redact_again _

end Passes

/-! ### Two messages -/

section Messages

attribute [local instance] CharacterClasses.latinAndChinese CaseFolding.lower

theorem sampleLocal : LocalPart ['a'] :=
  ⟨List.cons_ne_nil _ _, List.all_eq_true.mp (by decide +kernel)⟩

theorem sampleDomain : DomainPart ['b', '.', 'c', 'o', 'm'] :=
  ⟨['b'], ['c', 'o', 'm'], rfl, ⟨List.cons_ne_nil _ _, List.all_eq_true.mp (by decide +kernel)⟩,
    by decide, List.all_eq_true.mp (by decide +kernel)⟩

/-- An address that follows a Chinese character is stored and streamed as it was written. -/
theorem addressAfterIdeograph_survives : ∃ v,
    Triage.validateCustomerMessage "邮箱a@b.com" maxMessageChars = .ok v ∧
      ¬ PersonalDataHidden v := by
  refine ⟨⟨⟨"邮箱a@b.com", "邮箱a@b.com"⟩, false⟩, by decide +kernel, fun h => h.noAddress ?_⟩
  exact ⟨['邮', '箱'], ['a', '@', 'b', '.', 'c', 'o', 'm'], [], rfl, ['a'], ['b', '.', 'c', 'o', 'm'],
    rfl, sampleLocal, sampleDomain⟩

/-- With a space before it, it is hidden. -/
theorem addressAfterSpace_hidden : ∃ v,
    Triage.validateCustomerMessage "邮箱 a@b.com" maxMessageChars = .ok v ∧
      v.traceContent = "邮箱 [已隐藏的个人信息]" ∧ PersonalDataHidden v := by
  refine ⟨⟨⟨"邮箱 a@b.com", "邮箱 [已隐藏的个人信息]"⟩, true⟩, by decide +kernel, rfl, ?_⟩
  refine (personalDataHidden_iff "邮箱 a@b.com" maxMessageChars _ (by decide +kernel)).mpr ?_
  intro s r htext _ _
  have hsame : hideNumbers "邮箱 a@b.com".toList =
      ['邮', '箱', ' ', 'a'] ++ '@' :: ['b', '.', 'c', 'o', 'm'] := by decide +kernel
  obtain ⟨rfl, rfl⟩ := at_unique (by decide) (by decide) (hsame.symm.trans htext)
  exact Or.inl ⟨⟨['邮', '箱', ' '], ['a'], rfl, sampleLocal, by decide +kernel⟩,
    ⟨['b', '.', 'c', 'o', 'm'], [], rfl, sampleDomain, rfl⟩⟩

end Messages

end AfterSales
