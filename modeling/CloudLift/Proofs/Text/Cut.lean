import CloudLift.Text.Cut

/-!
# Cutting and replacing, step by step

A cut at a mark finds the first one, so a text without the mark in front of it and other
characters behind it do not move the cut.  A replacement goes from left to right: where the
part stands it goes on after it, and any other character stays.
-/

namespace CloudLift.Text.Chars

/-! ## Cutting -/

theorem cutAt?_append_mark {mark : Char} {before : List Char} (hbefore : mark ∉ before)
    (after : List Char) : cutAt? mark (before ++ mark :: after) = some (before, after) := by
  induction before with
  | nil => simp [cutAt?]
  | cons c before ih =>
    simp only [List.mem_cons, not_or] at hbefore
    rw [List.cons_append, cutAt?, if_neg (Ne.symm hbefore.1), ih hbefore.2]
    rfl

theorem cutAt?_concat {mark c : Char} (hc : c ≠ mark) (cs : List Char) :
    cutAt? mark (cs ++ [c]) =
      (cutAt? mark cs).map fun (before, after) => (before, after ++ [c]) := by
  induction cs with
  | nil => simp [cutAt?, hc]
  | cons d cs ih =>
    rw [List.cons_append, cutAt?, cutAt?, ih]
    by_cases hd : d = mark
    · rw [if_pos hd, if_pos hd]
      rfl
    · rw [if_neg hd, if_neg hd]
      cases cutAt? mark cs with
      | none => rfl
      | some cut => rfl

/-! ## Replacing -/

variable {part new : List Char}

theorem replace_cons_of_not_begins {c : Char} {cs : List Char} (hpart : ¬ part <+: c :: cs) :
    replace part new (c :: cs) = c :: replace part new cs := by
  have hbegins : ¬ (part.isPrefixOf (c :: cs) && !part.isEmpty) = true := by
    rw [Bool.and_eq_true, List.isPrefixOf_iff_prefix]
    exact fun hboth => hpart hboth.1
  rw [replace, if_neg hbegins]

theorem replace_append_self (hpart : part ≠ []) (cs : List Char) :
    replace part new (part ++ cs) = new ++ replace part new cs := by
  cases part with
  | nil => exact absurd rfl hpart
  | cons c part =>
    have hbegins : ((c :: part).isPrefixOf (c :: (part ++ cs)) && !(c :: part).isEmpty) = true := by
      rw [Bool.and_eq_true, List.isPrefixOf_iff_prefix]
      exact ⟨List.prefix_append (c :: part) cs, rfl⟩
    rw [List.cons_append, replace, if_pos hbegins]
    simp

theorem replace_append_of_notMem {c : Char} {front : List Char} (hfront : c ∉ front)
    (cs : List Char) :
    replace (c :: part) new (front ++ cs) = front ++ replace (c :: part) new cs := by
  induction front with
  | nil => rfl
  | cons first front ih =>
    simp only [List.mem_cons, not_or] at hfront
    rw [List.cons_append, replace_cons_of_not_begins, ih hfront.2, List.cons_append]
    rw [List.cons_prefix_cons]
    exact fun hboth => hfront.1 hboth.1

end CloudLift.Text.Chars
