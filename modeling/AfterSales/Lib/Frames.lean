import Mathlib.Data.List.Basic

/-! Frames of a stream, each ended by a blank line: two separators in a row.

    A reader keeps what has arrived, and cuts frames off its front as long as it finds an end. What
    it has cut off, and what is left, do not depend on the pieces in which the stream arrived. -/

namespace Frames

variable {α : Type} [DecidableEq α] (sep : α)

/-- The text before the first two separators in a row, and the text after them. -/
def cut : List α → Option (List α × List α)
  | [] => none
  | a :: text =>
    if a = sep ∧ text.head? = some sep then some ([], text.tail)
    else (cut text).map fun parts => (a :: parts.1, parts.2)

/-- A frame that its end does not reach into. -/
def Whole (frame : List α) : Prop := cut sep (frame ++ [sep]) = none

instance (frame : List α) : Decidable (Whole sep frame) := by
  unfold Whole
  infer_instance

variable {sep} {text rest frame : List α}

theorem cut_length {parts : List α × List α} (h : cut sep text = some parts) :
    parts.2.length < text.length := by
  induction text generalizing parts with
  | nil => cases h
  | cons a text ih =>
    rw [cut] at h
    split_ifs at h with hend
    · obtain rfl := Option.some.inj h
      rw [List.length_tail, List.length_cons]
      omega
    · obtain ⟨inner, hinner, hparts⟩ := Option.map_eq_some_iff.mp h
      have hlt : inner.2.length < text.length := ih hinner
      rw [← hparts]
      exact Nat.lt_succ_of_lt hlt

variable (sep) in
/-- The frames of a text, and what is left of it. -/
def frames (text : List α) : List (List α) × List α :=
  match h : cut sep text with
  | none => ([], text)
  | some parts =>
    have : parts.2.length < text.length := cut_length h
    let later := frames parts.2
    (parts.1 :: later.1, later.2)
termination_by text.length

theorem frames_none (h : cut sep text = none) : frames sep text = ([], text) := by
  rw [frames]
  split
  · rfl
  · rename_i parts hparts
    rw [h] at hparts
    cases hparts

theorem frames_some (h : cut sep text = some (frame, rest)) :
    frames sep text = (frame :: (frames sep rest).1, (frames sep rest).2) := by
  rw [frames]
  split
  · rename_i hnone
    rw [h] at hnone
    cases hnone
  · rename_i parts hparts
    rw [h] at hparts
    cases hparts
    rfl

/-- What arrives later does not change where a frame ends. -/
theorem cut_append {parts : List α × List α} (h : cut sep text = some parts) (later : List α) :
    cut sep (text ++ later) = some (parts.1, parts.2 ++ later) := by
  induction text generalizing parts with
  | nil => cases h
  | cons a text ih =>
    rw [cut] at h
    rw [List.cons_append, cut]
    rcases text with _ | ⟨b, text⟩
    · split_ifs at h with hend
      · simp at hend
      · cases h
    · have hhead : (b :: text ++ later).head? = (b :: text).head? := rfl
      rw [hhead]
      by_cases hend : a = sep ∧ (b :: text).head? = some sep
      · rw [if_pos hend] at h ⊢
        rw [← Option.some.inj h]
        rfl
      · rw [if_neg hend] at h ⊢
        obtain ⟨inner, hinner, hparts⟩ := Option.map_eq_some_iff.mp h
        rw [ih hinner, ← hparts]
        rfl

/-- The pieces of a stream give the frames of the whole. -/
theorem frames_append (text later : List α) : frames sep (text ++ later) =
    ((frames sep text).1 ++ (frames sep ((frames sep text).2 ++ later)).1,
      (frames sep ((frames sep text).2 ++ later)).2) := by
  induction hlength : text.length using Nat.strongRecOn generalizing text with
  | ind n ih =>
    subst hlength
    cases hcut : cut sep text with
    | none => rw [frames_none hcut, List.nil_append]
    | some parts =>
      rw [frames_some (cut_append hcut later), frames_some hcut,
        ih _ (cut_length hcut) parts.2 rfl]
      rfl

/-- A frame and its end are cut off together. -/
theorem cut_whole (h : Whole sep frame) (later : List α) :
    cut sep (frame ++ sep :: sep :: later) = some (frame, later) := by
  induction frame with
  | nil => simp [cut]
  | cons a frame ih =>
    rw [Whole, List.cons_append, cut] at h
    rw [List.cons_append, cut]
    have hhead : (frame ++ sep :: sep :: later).head? = (frame ++ [sep]).head? := by
      cases frame <;> rfl
    rw [hhead]
    split_ifs at h ⊢ with hend
    rw [ih (Option.map_eq_none_iff.mp h)]
    rfl

variable (sep) in
/-- The stream of some frames. -/
def join (parts : List (List α)) : List α := parts.flatMap (· ++ [sep, sep])

/-- The frames of a stream are the ones it was made of, -/
theorem frames_join {parts : List (List α)} (h : ∀ frame ∈ parts, Whole sep frame) :
    frames sep (join sep parts) = (parts, []) := by
  induction parts with
  | nil => exact frames_none rfl
  | cons frame parts ih =>
    have hcut : cut sep (join sep (frame :: parts)) = some (frame, join sep parts) := by
      rw [join, List.flatMap_cons, List.append_assoc]
      exact cut_whole (h frame List.mem_cons_self) _
    rw [frames_some hcut, ih fun later hlater => h later (List.mem_cons_of_mem _ hlater)]

/-- and those of its beginning are the first of them. -/
theorem frames_prefix {parts : List (List α)} (h : ∀ frame ∈ parts, Whole sep frame)
    (hpre : text <+: join sep parts) : (frames sep text).1 <+: parts := by
  obtain ⟨later, hlater⟩ := hpre
  have hwhole := frames_join h
  rw [← hlater, frames_append] at hwhole
  exact ⟨_, congrArg Prod.fst hwhole⟩

/-- A stream that was read to its end leaves nothing. -/
theorem frames_rest (text : List α) : cut sep (frames sep text).2 = none := by
  induction hlength : text.length using Nat.strongRecOn generalizing text with
  | ind n ih =>
    subst hlength
    cases hcut : cut sep text with
    | none => rwa [frames_none hcut]
    | some parts =>
      rw [frames_some hcut]
      exact ih _ (cut_length hcut) parts.2 rfl

/-- Another character does not end a frame. -/
theorem cut_concat {a : α} (h : cut sep text = none) (ha : a ≠ sep) :
    cut sep (text ++ [a]) = none := by
  induction text with
  | nil => simp [cut, ha]
  | cons b text ih =>
    rw [cut] at h
    rw [List.cons_append, cut]
    have hhead : ¬ (b = sep ∧ (text ++ [a]).head? = some sep) := by
      rintro ⟨hb, hnext⟩
      cases text with
      | nil => exact ha (Option.some.inj hnext)
      | cons c text => simp [hb, show c = sep from Option.some.inj hnext] at h
    split_ifs at h
    rw [if_neg hhead, ih (Option.map_eq_none_iff.mp h)]
    rfl

/-- Lines that are not empty, with one separator between them, make a frame. -/
theorem cut_line {line : List α} (hsep : sep ∉ line) (hne : line ≠ []) :
    cut sep (line ++ text) = none ↔ cut sep text = none := by
  induction line with
  | nil => exact absurd rfl hne
  | cons a line ih =>
    have ha : ¬ (a = sep ∧ (line ++ text).head? = some sep) := fun h =>
      hsep (h.1 ▸ List.mem_cons_self)
    rw [List.cons_append, cut, if_neg ha, Option.map_eq_none_iff]
    by_cases hline : line = []
    · rw [hline, List.nil_append]
    · exact ih (fun h => hsep (List.mem_cons_of_mem _ h)) hline

theorem cut_next {line : List α} (hsep : sep ∉ line) (hne : line ≠ []) :
    cut sep (sep :: (line ++ text)) = none ↔ cut sep text = none := by
  obtain ⟨a, rest, rfl⟩ := List.exists_cons_of_ne_nil hne
  have ha : ¬ (sep = sep ∧ (a :: rest ++ text).head? = some sep) := fun h =>
    hsep (Option.some.inj h.2 ▸ List.mem_cons_self)
  rw [cut, if_neg ha, Option.map_eq_none_iff]
  exact cut_line hsep hne

end Frames
