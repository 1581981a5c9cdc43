import AfterSales.Agents.Patterns

/-! Whether order ids are read from a message as they are written.

    An order id is written where its mark and letters, digits or hyphens stand between characters of
    other kinds. The pattern asks for word boundaries instead: it misses an id after a Chinese
    character, cuts one at its last hyphen before such a character, and takes the end of a longer
    run that has the mark in the middle. -/

namespace AfterSales

open Pattern

/-- `[A-Za-z0-9-]`. -/
def isIdChar (c : Char) : Bool := c.isAlphanum || c = '-'

/-- The mark, in any case, and at least one more character of a class. -/
def isOrderForm (q : Char → Bool) : List Char → Bool
  | o :: r :: d :: hyphen :: tail =>
    o.toUpper = 'O' && r.toUpper = 'R' && d.toUpper = 'D' && hyphen = '-' && tail ≠ [] && tail.all q
  | _ => false

/-- Where order ids are written in a text. -/
def occurrences (text : List Char) : List (Place Char) :=
  ((List.range text.length).map fun i =>
    (⟨text.take i, (text.drop i).takeWhile isIdChar, (text.drop i).dropWhile isIdChar⟩ :
      Place Char)).filter fun p => !p.before.getLast?.any isIdChar && isOrderForm isIdChar p.here

/-- The first sixteen, in upper case and each once. -/
def firstSixteen (ids : List (List Char)) : List String :=
  (ids.map fun w => String.ofList (w.map Char.toUpper)).eraseDups.take 16

section Boundaries

variable [CharacterClasses]

/-- Some characters at the head of the text belong to the class of the pattern and end at a word
    boundary. -/
def reaches (text : List Char) : Bool :=
  (List.range (text.takeWhile isOrderIdChar).length).any fun n => wordBoundary text[n]? text[n + 1]?

/-- No word character before, a word boundary at the end, and none further on. -/
def standsAlone (p : Place Char) : Bool :=
  !p.before.getLast?.any isWord && wordBoundary p.here.getLast? p.after.head? && !reaches p.after

/-- The pattern can take `p.here`. -/
def CanTake (p : Place Char) : Prop :=
  isOrderForm isOrderIdChar p.here = true ∧ p.before.getLast?.any isWord = false ∧
    wordBoundary p.here.getLast? p.after.head? = true

/-- Wherever the pattern can take something, an order id is written that begins there or before,
    and it stands alone. -/
def NothingElseFits (text : List Char) : Prop :=
  ∀ p : Place Char, p.text = text → CanTake p → ∃ o ∈ occurrences text, standsAlone o = true ∧
    o.before.length ≤ p.before.length ∧ p.before.length < o.before.length + o.here.length

end Boundaries

/-! ### Occurrences -/

theorem isOrderForm_iff {q : Char → Bool} {w : List Char} :
    isOrderForm q w = true ↔ ∃ m tail, w = m ++ tail ∧
      List.Forall₂ (fun p c => p c = true) orderMark m ∧ tail ≠ [] ∧ ∀ c ∈ tail, q c = true := by
  constructor
  · intro h
    match w, h with
    | o :: r :: d :: hyphen :: tail, h =>
      simp only [isOrderForm, Bool.and_eq_true, decide_eq_true_eq, List.all_eq_true] at h
      obtain ⟨⟨⟨⟨⟨ho, hr⟩, hd⟩, hhyphen⟩, hne⟩, hall⟩ := h
      refine ⟨[o, r, d, hyphen], tail, rfl, ?_, hne, hall⟩
      simp [orderMark, ho, hr, hd, hhyphen]
  · rintro ⟨m, tail, rfl, hm, hne, hall⟩
    simp only [orderMark, List.forall₂_cons_left_iff, List.forall₂_nil_left_iff,
      decide_eq_true_eq] at hm
    obtain ⟨o, _, ho, ⟨r, _, hr, ⟨d, _, hd, ⟨hyphen, _, hhyphen, rfl, rfl⟩, rfl⟩, rfl⟩, rfl⟩ := hm
    simp only [List.cons_append, List.nil_append, isOrderForm, Bool.and_eq_true, decide_eq_true_eq,
      List.all_eq_true]
    exact ⟨⟨⟨⟨⟨ho, hr⟩, hd⟩, hhyphen⟩, hne⟩, hall⟩

theorem isOrderForm_ne_nil {q : Char → Bool} {w : List Char} (h : isOrderForm q w = true) :
    w ≠ [] := by
  rintro rfl
  cases h

theorem isAlpha_of_toUpper {c d : Char} (h : c.toUpper = d) (hd : d.isAlpha = true) :
    c.isAlpha = true := by
  subst h
  unfold Char.toUpper at hd
  split_ifs at hd with hlower
  · exact isAlpha_iff.mpr (Or.inr ((Bool.and_eq_true _ _).to_iff.mpr (by simpa using hlower)))
  · exact hd

theorem mark_alpha {p : Char → Bool} (hp : p ∈ orderMark) {c : Char} (hc : p c = true) :
    c.isAlpha = true ∨ c = '-' := by
  simp only [orderMark, List.mem_cons, List.not_mem_nil, or_false] at hp
  rcases hp with rfl | rfl | rfl | rfl
  · exact Or.inl (isAlpha_of_toUpper (of_decide_eq_true hc) (by decide))
  · exact Or.inl (isAlpha_of_toUpper (of_decide_eq_true hc) (by decide))
  · exact Or.inl (isAlpha_of_toUpper (of_decide_eq_true hc) (by decide))
  · exact Or.inr (of_decide_eq_true hc)

/-- The mark belongs to the class as well. -/
theorem isOrderForm_all {q : Char → Bool} (halpha : ∀ c : Char, c.isAlpha = true → q c = true)
    (hhyphen : q '-' = true) {w : List Char} (h : isOrderForm q w = true) :
    ∀ c ∈ w, q c = true := by
  obtain ⟨m, tail, rfl, hm, -, htail⟩ := isOrderForm_iff.mp h
  intro c hc
  rcases List.mem_append.mp hc with hc | hc
  · obtain ⟨i, hi, rfl⟩ := List.getElem_of_mem hc
    have hlength := hm.length_eq
    rcases mark_alpha (List.getElem_mem (by omega)) (hm.get (by omega) hi) with h | h
    · exact halpha _ h
    · rw [List.get_eq_getElem] at h
      rw [h]
      exact hhyphen
  · exact htail c hc

theorem isIdChar_of_isAlpha (c : Char) (h : c.isAlpha = true) : isIdChar c = true := by
  simp [isIdChar, Char.isAlphanum, h]

theorem isOrderIdChar_of_isAlpha (c : Char) (h : c.isAlpha = true) : isOrderIdChar c = true := by
  simp [isOrderIdChar, isLetter, h]

theorem dropWhile_of_none {q : Char → Bool} {l : List Char} (h : l.takeWhile q = []) :
    l.dropWhile q = l := by
  have happend := List.takeWhile_append_dropWhile (p := q) (l := l)
  rwa [h, List.nil_append] at happend

/-- An order id is written at a place: its form, and other characters on either side. -/
theorem mem_occurrences {text : List Char} {p : Place Char} :
    p ∈ occurrences text ↔ p.text = text ∧ isOrderForm isIdChar p.here = true ∧
      p.before.getLast?.any isIdChar = false ∧ p.after.head?.any isIdChar = false := by
  rw [occurrences, List.mem_filter, List.mem_map]
  simp only [List.mem_range, Bool.and_eq_true, Bool.not_eq_true']
  constructor
  · rintro ⟨⟨i, hi, rfl⟩, hbefore, hform⟩
    dsimp only at hbefore hform ⊢
    refine ⟨?_, hform, hbefore, ?_⟩
    · rw [Place.text, List.takeWhile_append_dropWhile, List.take_append_drop]
    · have hstop := List.head?_dropWhile_not isIdChar (text.drop i)
      cases hhead : ((text.drop i).dropWhile isIdChar).head? with
      | none => rfl
      | some c =>
        rw [hhead] at hstop
        simpa using hstop
  · rintro ⟨rfl, hform, hbefore, hafter⟩
    refine ⟨⟨p.before.length, ?_, ?_⟩, hbefore, hform⟩
    · have hpos := List.length_pos_iff.mpr (isOrderForm_ne_nil hform)
      simp only [Place.text, List.length_append]
      omega
    · have hall : ∀ c ∈ p.here, isIdChar c = true :=
        isOrderForm_all isIdChar_of_isAlpha (by decide) hform
      have hnone : p.after.takeWhile isIdChar = [] := by
        cases hp : p.after with
        | nil => rfl
        | cons c r =>
          rw [hp, List.head?_cons, Option.any_some] at hafter
          rw [List.takeWhile_cons, hafter]
          rfl
      have hdrop : p.text.drop p.before.length = p.here ++ p.after := by
        rw [Place.text, List.drop_left]
      rw [hdrop, List.takeWhile_append_of_pos hall, hnone, List.append_nil,
        List.dropWhile_append_of_pos hall, dropWhile_of_none hnone, Place.text, List.take_left]

theorem occurrences_sorted (text : List Char) :
    (occurrences text).Pairwise fun p q => p.before.length < q.before.length := by
  refine List.Pairwise.filter _ (List.pairwise_map.mpr ?_)
  refine List.pairwise_lt_range.imp_of_mem fun {i j} hi hj hlt => ?_
  have hi := List.mem_range.mp hi
  have hj := List.mem_range.mp hj
  simp only [List.length_take]
  omega

section Takes

variable [CharacterClasses]

/-! ### What the pattern takes -/

theorem wordBoundary_start {prev next : Option Char} (hnext : next.any isWord = true) :
    wordBoundary prev next = true ↔ prev.any isWord = false := by
  rw [wordBoundary, hnext]
  cases prev.any isWord <;> decide

theorem fits_order {prev : Option Char} {w rest : List Char} :
    orderIdPattern.Fits prev w rest ↔ isOrderForm isOrderIdChar w = true ∧
      prev.any isWord = false ∧ wordBoundary w.getLast? rest.head? = true := by
  simp only [orderIdPattern, Fits, fits_each, isOrderForm_iff]
  -- the mark begins with a letter
  have hfirst : ∀ {m : List Char}, List.Forall₂ (fun p c => p c = true) orderMark m →
      ∀ r, (m ++ r).head?.any isWord = true := by
    intro m hm r
    simp only [orderMark, List.forall₂_cons_left_iff] at hm
    obtain ⟨o, t, ho, -, rfl⟩ := hm
    exact isWord_of_isLetter (by
      rw [isLetter, isAlpha_of_toUpper (of_decide_eq_true ho) (by decide), Bool.true_or])
  constructor
  · rintro ⟨-, -, rfl, ⟨hlook, rfl⟩, m, -, rfl, hm, tail, -, rfl, ⟨hlength, htail⟩, hlast, rfl⟩
    have hne : tail ≠ [] := List.length_pos_iff.mp hlength
    rw [List.append_assoc, wordBoundary_start (hfirst hm _)] at hlook
    rw [before_of_ne_nil hne] at hlast
    refine ⟨⟨m, tail, by simp, hm, hne, htail⟩, hlook, ?_⟩
    rw [List.nil_append, List.append_nil, List.getLast?_append_of_ne_nil _ hne]
    exact hlast
  · rintro ⟨⟨m, tail, rfl, hm, hne, htail⟩, hprev, hlast⟩
    rw [List.getLast?_append_of_ne_nil _ hne] at hlast
    refine ⟨[], _, rfl, ⟨?_, rfl⟩, m, tail, rfl, hm, tail, [], (List.append_nil tail).symm,
      ⟨List.length_pos_iff.mpr hne, htail⟩, ?_, rfl⟩
    · show wordBoundary prev (m ++ tail ++ rest).head? = true
      rw [List.append_assoc, wordBoundary_start (hfirst hm _)]
      exact hprev
    · rwa [before_of_ne_nil hne]

theorem order_consumes : (orderIdPattern).Consumes := fun _ _ _ h =>
  isOrderForm_ne_nil (fits_order.mp h).1

/-- No other match at the same place is longer. -/
theorem order_longest {prev : Option Char} {w r w' r' : List Char}
    (hfind : orderIdPattern.find prev (w' ++ r') = some (w, r))
    (hfits : orderIdPattern.Fits prev w' r') : w'.length ≤ w.length := by
  obtain ⟨-, w, rfl, htext, ⟨-, rfl⟩, hfind, -⟩ := find_seq hfind
  obtain ⟨m, w, rfl, -, hm, hfind, -⟩ := find_seq hfind
  obtain ⟨tail, w, rfl, -, -, hfind, hgreedy⟩ := find_many hfind
  obtain ⟨-, -, rfl⟩ := fits_of_find hfind
  obtain ⟨hform, -, hlast⟩ := fits_order.mp hfits
  obtain ⟨m', tail', rfl, hm', hne, htail'⟩ := isOrderForm_iff.mp hform
  have hlength : m'.length = m.length := by
    rw [← hm'.length_eq, ← (fits_each.mp hm).length_eq]
  rw [List.nil_append, List.append_assoc, List.append_assoc] at htext
  obtain ⟨rfl, htail⟩ := List.append_inj htext hlength
  have hle := hgreedy tail' [] r' (by rw [List.nil_append]; exact htail.symm)
    (List.length_pos_iff.mpr hne) htail' ⟨?_, rfl⟩
  · simp only [List.nil_append, List.append_nil, List.length_append]
    omega
  · rw [List.getLast?_append_of_ne_nil _ hne] at hlast
    rwa [before_of_ne_nil hne]

theorem reaches_iff {text : List Char} : reaches text = true ↔
    ∃ x y, text = x ++ y ∧ x ≠ [] ∧ (∀ c ∈ x, isOrderIdChar c = true) ∧
      wordBoundary x.getLast? y.head? = true := by
  rw [reaches, List.any_eq_true]
  constructor
  · rintro ⟨n, hn, hboundary⟩
    have hlt := List.mem_range.mp hn
    have hle : n < text.length :=
      lt_of_lt_of_le hlt (List.takeWhile_prefix isOrderIdChar).length_le
    refine ⟨text.take (n + 1), text.drop (n + 1), (List.take_append_drop ..).symm, ?_, ?_, ?_⟩
    · exact List.length_pos_iff.mp (by rw [List.length_take]; omega)
    · intro c hc
      have htake : text.take (n + 1) = (text.takeWhile isOrderIdChar).take (n + 1) := by
        obtain ⟨rest, hrest⟩ := List.takeWhile_prefix isOrderIdChar (l := text)
        conv_lhs => rw [← hrest]
        rw [List.take_append_of_le_length (by omega)]
      rw [htake] at hc
      exact List.all_eq_true.mp List.all_takeWhile c (List.mem_of_mem_take hc)
    · rw [List.getLast?_take, List.head?_drop]
      simpa [List.getElem?_eq_getElem hle] using hboundary
  · rintro ⟨x, y, rfl, hne, hall, hboundary⟩
    have hpos := List.length_pos_iff.mpr hne
    refine ⟨x.length - 1, List.mem_range.mpr ?_, ?_⟩
    · rw [List.takeWhile_append_of_pos hall, List.length_append]
      omega
    · rw [List.getElem?_append_left (by omega), ← List.getLast?_eq_getElem?,
        List.getElem?_append_right (by omega), show x.length - 1 + 1 - x.length = 0 by omega,
        ← List.head?_eq_getElem?]
      exact hboundary

omit [CharacterClasses] in
theorem isOrderForm_append {q : Char → Bool} {w x : List Char} (h : isOrderForm q w = true)
    (hx : ∀ c ∈ x, q c = true) : isOrderForm q (w ++ x) = true := by
  obtain ⟨m, tail, rfl, hm, hne, htail⟩ := isOrderForm_iff.mp h
  refine isOrderForm_iff.mpr ⟨m, tail ++ x, List.append_assoc .., hm, by simp [hne], ?_⟩
  intro c hc
  exact (List.mem_append.mp hc).elim (htail c) (hx c)

/-! ### What a scan takes -/

variable {text : List Char} {ps : List (Piece Char)}

theorem canTake_iff {p : Place Char} :
    CanTake p ↔ orderIdPattern.Fits (before none p.before) p.here p.after := by
  rw [before_none]
  exact fits_order.symm

/-- What is taken stands alone. -/
theorem place_standsAlone (h : Scans orderIdPattern none text ps) {p : Place Char}
    (hp : p ∈ places ps) : p.text = text ∧ CanTake p ∧ standsAlone p = true := by
  obtain ⟨qs, rs, rfl, hbefore, hafter⟩ := mem_places.mp hp
  have htext : p.text = text := by
    rw [← h.source_eq, Place.text, hbefore, hafter, source_append, source_found]
  have htake : CanTake p := by
    rw [canTake_iff, hbefore, hafter]
    exact h.fits_found
  refine ⟨htext, htake, ?_⟩
  have hmore : reaches p.after = false := by
    rw [Bool.eq_false_iff]
    intro hreaches
    -- a longer match would have been taken
    obtain ⟨x, y, hxy, hne, hall, hboundary⟩ := reaches_iff.mp hreaches
    have hfind := h.find_found
    rw [← hafter, hxy, ← List.append_assoc] at hfind
    have hfits : orderIdPattern.Fits (before none (source qs)) (p.here ++ x) y := by
      refine fits_order.mpr ⟨isOrderForm_append htake.1 hall, ?_, ?_⟩
      · rw [before_none, ← hbefore]
        exact htake.2.1
      · rwa [List.getLast?_append_of_ne_nil _ hne]
    have hle := order_longest hfind hfits
    have hpos := List.length_pos_iff.mpr hne
    rw [List.length_append] at hle
    omega
  rw [standsAlone, htake.2.1, htake.2.2, hmore]
  rfl

/-- At a place inside a match every character before it is of the class. -/
theorem inside_match {qs rs : List (Piece Char)} {w₁ w₂ : List Char}
    (h : Scans orderIdPattern none text (qs ++ .found (w₁ ++ w₂) :: rs)) (hw₁ : w₁ ≠ []) :
    ∃ c, (source qs ++ w₁).getLast? = some c ∧ isOrderIdChar c = true := by
  obtain ⟨hform, -, -⟩ := fits_order.mp h.fits_found
  have hall := isOrderForm_all isOrderIdChar_of_isAlpha (by decide) hform
  refine ⟨w₁.getLast hw₁, ?_, hall _ (List.mem_append_left _ (List.getLast_mem hw₁))⟩
  rw [List.getLast?_append_of_ne_nil _ hw₁, List.getLast?_eq_some_getLast hw₁]

theorem isIdChar_of_not_isWord {c : Char} (h : isOrderIdChar c = true) (hword : isWord c = false) :
    isIdChar c = true := by
  simp only [isOrderIdChar, Bool.or_eq_true, decide_eq_true_eq] at h
  rcases h with (hletter | hdigit) | rfl
  · rw [isWord_of_isLetter hletter] at hword
    cases hword
  · rw [isWord_of_isDigit hdigit] at hword
    cases hword
  · decide

theorem occurrence_canTake {o : Place Char} (ho : o ∈ occurrences text)
    (halone : standsAlone o = true) : CanTake o := by
  obtain ⟨-, hform, -, -⟩ := mem_occurrences.mp ho
  simp only [standsAlone, Bool.and_eq_true, Bool.not_eq_true'] at halone
  refine ⟨?_, halone.1.1, halone.1.2⟩
  obtain ⟨m, tail, hw, hm, hne, htail⟩ := isOrderForm_iff.mp hform
  refine isOrderForm_iff.mpr ⟨m, tail, hw, hm, hne, fun c hc => ?_⟩
  have hid := htail c hc
  simp only [isIdChar, Char.isAlphanum, Bool.or_eq_true, decide_eq_true_eq] at hid
  simp only [isOrderIdChar, isLetter, Bool.or_eq_true, decide_eq_true_eq]
  tauto

/-- An order id that stands alone is taken as it is written. -/
theorem taken_of_standsAlone (h : Scans orderIdPattern none text ps) {o : Place Char}
    (ho : o ∈ occurrences text) (halone : standsAlone o = true) : o ∈ places ps := by
  have htake := occurrence_canTake ho halone
  have hfits := canTake_iff.mp htake
  obtain ⟨htext, -, hbefore, -⟩ := mem_occurrences.mp ho
  have hne := isOrderForm_ne_nil htake.1
  rw [← h.source_eq] at htext
  rcases exists_cut htext.symm with ⟨qs, rs, rfl, hqs, hrs⟩ | ⟨qs, w₁, w₂, rs, rfl, hw₁, -, hqs, -⟩
  · rw [← hqs] at hfits
    obtain ⟨m, rs, rfl⟩ := h.taken_of_fits hne hrs hfits
    have hfind := h.find_found
    rw [source_found] at hrs
    rw [hrs] at hfind
    have hle := order_longest hfind hfits
    have hm : m = o.here := by
      rcases List.append_eq_append_iff.mp hrs with ⟨x, hx, -⟩ | ⟨x, rfl, hafter⟩
      · rw [hx, List.length_append] at hle
        obtain rfl : x = [] := List.length_eq_zero_iff.mp (by omega)
        rw [hx, List.append_nil]
      · by_contra hlonger
        have hx : x ≠ [] := by
          rintro rfl
          exact hlonger (List.append_nil _)
        -- the id would go on to a later boundary
        obtain ⟨hform, -, hlast⟩ := fits_order.mp h.fits_found
        have hall := isOrderForm_all isOrderIdChar_of_isAlpha (by decide) hform
        rw [List.getLast?_append_of_ne_nil _ hx] at hlast
        have hreaches : reaches o.after = true := reaches_iff.mpr
          ⟨x, source rs, hafter, hx, fun c hc => hall c (List.mem_append_right _ hc), hlast⟩
        simp only [standsAlone, hreaches, Bool.not_true, Bool.and_false] at halone
        cases halone
    subst hm
    exact mem_places.mpr ⟨qs, rs, rfl, hqs.symm, (List.append_cancel_left hrs).symm⟩
  · -- a match that goes over the place would bring a hyphen before it
    exfalso
    obtain ⟨c, hc, hclass⟩ := inside_match h hw₁
    rw [hqs] at hc
    have hword := htake.2.1
    rw [hc, Option.any_some] at hword hbefore
    rw [isIdChar_of_not_isWord hclass hword] at hbefore
    cases hbefore

/-- Only order ids that are written are taken, exactly when nothing else fits. -/
theorem places_written_iff (h : Scans orderIdPattern none text ps) :
    (∀ p ∈ places ps, p ∈ occurrences text) ↔ NothingElseFits text := by
  constructor
  · intro hwritten p htext htake
    have hfits := canTake_iff.mp htake
    rw [← h.source_eq] at htext
    rcases exists_cut htext.symm with ⟨qs, rs, rfl, hqs, hrs⟩ |
      ⟨qs, w₁, w₂, rs, rfl, -, hw₂, hqs, -⟩
    · rw [← hqs] at hfits
      obtain ⟨m, rs, rfl⟩ := h.taken_of_fits (isOrderForm_ne_nil htake.1) hrs hfits
      have hplace : (⟨source qs, m, source rs⟩ : Place Char) ∈ places (qs ++ .found m :: rs) :=
        mem_places.mpr ⟨qs, rs, rfl, rfl, rfl⟩
      obtain ⟨-, hcan, halone⟩ := place_standsAlone h hplace
      refine ⟨_, hwritten _ hplace, halone, by rw [hqs], ?_⟩
      have hpos := List.length_pos_iff.mpr (isOrderForm_ne_nil hcan.1)
      rw [← hqs]
      dsimp only at hpos ⊢
      omega
    · have hplace : (⟨source qs, w₁ ++ w₂, source rs⟩ : Place Char) ∈
          places (qs ++ .found (w₁ ++ w₂) :: rs) := mem_places.mpr ⟨qs, rs, rfl, rfl, rfl⟩
      have hpos := List.length_pos_iff.mpr hw₂
      refine ⟨_, hwritten _ hplace, (place_standsAlone h hplace).2.2, ?_, ?_⟩
      · rw [← hqs, List.length_append]
        exact Nat.le_add_right _ _
      · show p.before.length < (source qs).length + (w₁ ++ w₂).length
        rw [← hqs, List.length_append, List.length_append]
        omega
  · intro hnothing p hp
    obtain ⟨htext, htake, -⟩ := place_standsAlone h hp
    obtain ⟨o, ho, halone, hle, hlt⟩ := hnothing p htext htake
    have ho' := taken_of_standsAlone h ho halone
    -- both are taken, and they overlap
    have hsame : o = p := by
      by_contra hne
      have hpos := List.length_pos_iff.mpr (isOrderForm_ne_nil htake.1)
      rcases apart_of_ne ho' hp hne with h | h <;> omega
    rwa [← hsame]

/-- Then what is taken is what stands alone, in order. -/
theorem places_eq (h : Scans orderIdPattern none text ps) (hnothing : NothingElseFits text) :
    places ps = (occurrences text).filter standsAlone := by
  refine eq_of_sorted_of_mem h.solid.places_sorted ((occurrences_sorted text).filter _) fun p => ?_
  rw [List.mem_filter]
  constructor
  · intro hp
    exact ⟨(places_written_iff h).mpr hnothing p hp, (place_standsAlone h hp).2.2⟩
  · rintro ⟨hp, halone⟩
    exact taken_of_standsAlone h hp halone

/-! ### The ids of a message -/

omit [CharacterClasses] in
theorem upperChar_of_isIdChar {c : Char} (h : isIdChar c = true) : upperChar c = c.toUpper := by
  have hlt : c.toNat < 128 := by
    by_contra hge
    revert h
    simp only [isIdChar, Char.isAlphanum, Bool.or_eq_true, decide_eq_true_eq, isAlpha_iff,
      isUpper_iff, isLower_iff]
    rintro (((h | h) | h) | rfl)
    · omega
    · omega
    · exact hge ((toNat_le_of_isDigit h).trans_lt (by decide))
    · exact hge (by decide)
  rw [upperChar, if_neg (by omega), if_neg (by omega)]

theorem literalOrderIds_eq {content : String} (hnothing : NothingElseFits content.toList) :
    literalOrderIds content =
      firstSixteen (((occurrences content.toList).filter standsAlone).map Place.here) := by
  have hscan := scan_scans order_consumes content.toList
  rw [literalOrderIds, firstSixteen, ← places_eq hscan hnothing, List.map_map,
    ← map_here_placesFrom [], List.map_map]
  congr 2
  refine List.map_congr_left fun p hp => ?_
  obtain ⟨-, hform, -, -⟩ := mem_occurrences.mp ((places_written_iff hscan).mpr hnothing p hp)
  have hall := isOrderForm_all isIdChar_of_isAlpha (by decide) hform
  exact congrArg String.ofList
    (List.map_congr_left fun c hc => upperChar_of_isIdChar (hall c hc))

/-- Order ids are read as they are written: every one, nothing else, each once and in order, up to
    sixteen. So where one of them may be read by the customer, the route is about that order. -/
structure OrderIdsAsWritten [CaseFolding] (content : String) : Prop where
  listed : literalOrderIds content =
    firstSixteen ((occurrences content.toList).map Place.here)
  written : ∀ p ∈ places (scan orderIdPattern content.toList), p ∈ occurrences content.toList
  routed : ∀ (customerId : String) (store : FixtureStore) (result : TriageResult)
    (orderId : String),
    ((firstSixteen ((occurrences content.toList).map Place.here)).filter fun id =>
      (authorizeOrder customerId id store).isSome) = [orderId] →
    (result.intent.issueType.isSome →
      (routeTriage customerId (normalizeTriageResult content result) store).supported ∧
        (routeTriage customerId (normalizeTriageResult content result) store).authorizedOrderId =
          some orderId) ∧
    (result.intent = .trackingStatusQuery →
      (routeTriage customerId (normalizeTriageResult content result) store).authorizedOrderId =
        some orderId)

/-- Order ids are read as written in exactly the messages where nothing else fits the pattern and
    the ids that do not stand alone are repeats. -/
theorem orderIdsAsWritten_iff [CaseFolding] (content : String) :
    OrderIdsAsWritten content ↔ NothingElseFits content.toList ∧
      firstSixteen (((occurrences content.toList).filter standsAlone).map Place.here) =
        firstSixteen ((occurrences content.toList).map Place.here) := by
  have hscan := scan_scans order_consumes content.toList
  constructor
  · intro h
    have hnothing := (places_written_iff hscan).mp h.written
    exact ⟨hnothing, (literalOrderIds_eq hnothing).symm.trans h.listed⟩
  · rintro ⟨hnothing, hrepeats⟩
    have hlisted := (literalOrderIds_eq hnothing).trans hrepeats
    refine ⟨hlisted, (places_written_iff hscan).mpr hnothing, ?_⟩
    intro customerId store result orderId hone
    rw [← hlisted] at hone
    refine ⟨fun hissue => ?_, fun htracking => ?_⟩
    · obtain ⟨issueType, hissue⟩ := Option.isSome_iff_exists.mp hissue
      simp only [routeTriage, normalizeTriageResult, hissue, hone, routeSupportedIssue,
        PolicyDecision.supported, decide_true, and_self]
    · simp only [routeTriage, normalizeTriageResult, htracking, hone, TriageIntent.issueType,
        TriageIntent.standardReplyReason, routeTrackingStatus]
      rfl

end Takes

section Messages

attribute [local instance] CharacterClasses.latinAndChinese CaseFolding.lower

/-- An id after a Chinese character is not read. -/
theorem idAfterIdeograph_missed : ¬ OrderIdsAsWritten "订单ORD-1001没收到" := by
  intro h
  exact absurd h.listed (by decide +kernel)

/-- One before a Chinese character is cut at its last hyphen. -/
example : literalOrderIds "ORD-SNR-1001没收到" = ["ORD-SNR-"] := by decide +kernel

end Messages

end AfterSales
