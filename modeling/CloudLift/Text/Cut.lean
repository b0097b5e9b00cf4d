/-!
# Cutting and searching a text

A text is cut at the first occurrence of a mark, at every occurrence of it, or
searched for another text.  Joining what was cut with the mark gives the text
back.
-/

namespace CloudLift.Text

namespace Chars

/-- What stands before and after the first `mark`. -/
def cutAt? (mark : Char) : List Char → Option (List Char × List Char)
  | [] => none
  | c :: cs =>
    if c = mark then
      some ([], cs)
    else
      (cutAt? mark cs).map fun (before, after) => (c :: before, after)

theorem eq_of_cutAt? {mark : Char} {cs before after : List Char}
    (h : cutAt? mark cs = some (before, after)) :
    cs = before ++ mark :: after ∧ mark ∉ before := by
  induction cs generalizing before with
  | nil => simp [cutAt?] at h
  | cons c cs ih =>
    unfold cutAt? at h
    split at h
    case isTrue hc =>
      cases h
      simp [hc]
    case isFalse hc =>
      obtain ⟨⟨b, a⟩, hb, hab⟩ := Option.map_eq_some_iff.1 h
      cases hab
      obtain ⟨rfl, hm⟩ := ih hb
      refine ⟨rfl, ?_⟩
      simp only [List.mem_cons, not_or]
      exact ⟨fun e => hc e.symm, hm⟩

theorem cutAt?_eq_none_iff {mark : Char} {cs : List Char} :
    cutAt? mark cs = none ↔ mark ∉ cs := by
  induction cs with
  | nil => simp [cutAt?]
  | cons c cs ih =>
    unfold cutAt?
    split
    case isTrue hc => simp [hc]
    case isFalse hc =>
      simp only [Option.map_eq_none_iff, ih, List.mem_cons, not_or]
      exact ⟨fun h => ⟨fun e => hc e.symm, h⟩, fun h => h.2⟩

/-- The pieces between the occurrences of `mark`; there is always one. -/
def pieces (mark : Char) : List Char → List (List Char)
  | [] => [[]]
  | c :: cs =>
    if c = mark then
      [] :: pieces mark cs
    else
      match pieces mark cs with
      | [] => [[c]]
      | p :: ps => (c :: p) :: ps

/-- Whether `part` stands somewhere in the text. -/
def holds (part : List Char) : List Char → Bool
  | [] => part.isEmpty
  | c :: cs => part.isPrefixOf (c :: cs) || holds part cs

theorem holds_iff_infix {part cs : List Char} :
    holds part cs = true ↔ part <:+: cs := by
  induction cs with
  | nil => simp [holds]
  | cons c cs ih =>
    rw [holds, Bool.or_eq_true, ih, List.isPrefixOf_iff_prefix, List.infix_cons_iff]

/-- The text with every occurrence of `part` replaced, from left to right and
without overlap.  An empty `part` changes nothing. -/
def replace (part new : List Char) : List Char → List Char
  | [] => []
  | c :: cs =>
    if part.isPrefixOf (c :: cs) && !part.isEmpty then
      new ++ replace part new (cs.drop (part.length - 1))
    else
      c :: replace part new cs
  termination_by cs => cs.length
  decreasing_by
    · simp only [List.length_drop, List.length_cons]
      omega
    · simp

end Chars

def cutAt? (mark : Char) (s : String) : Option (String × String) :=
  (Chars.cutAt? mark s.toList).map fun (before, after) =>
    (String.ofList before, String.ofList after)

def pieces (mark : Char) (s : String) : List String :=
  (Chars.pieces mark s.toList).map String.ofList

def holds (part s : String) : Bool :=
  Chars.holds part.toList s.toList

def replace (part new s : String) : String :=
  String.ofList (Chars.replace part.toList new.toList s.toList)

/-- The texts in order, with `mark` between each two. -/
def join (mark : String) : List String → String
  | [] => ""
  | [s] => s
  | s :: rest => s ++ mark ++ join mark rest

end CloudLift.Text
