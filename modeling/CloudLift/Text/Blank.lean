/-!
# Blanks and words

The characters that count as blank space are those with the Unicode property
`White_Space`.  Trimming, cutting a text into words and dropping its blanks are
defined on the list of characters; the versions on `String` read that list and
write it back, so a statement about one is a statement about the other.
-/

namespace CloudLift.Text

/-- The members of the Unicode property `White_Space`. -/
def isBlank (c : Char) : Bool :=
  let n := c.toNat
  (9 ≤ n && n ≤ 13) || n == 0x20 || n == 0x85 || n == 0xA0 || n == 0x1680 ||
    (0x2000 ≤ n && n ≤ 0x200A) || n == 0x2028 || n == 0x2029 || n == 0x202F ||
    n == 0x205F || n == 0x3000

theorem isBlank_of_isWhitespace {c : Char} (h : c.isWhitespace = true) :
    isBlank c = true := by
  simp only [Char.isWhitespace, Bool.or_eq_true, decide_eq_true_eq] at h
  rcases h with ((h | h) | h) | h <;> subst h <;> decide

namespace Chars

def trimStart (cs : List Char) : List Char :=
  cs.dropWhile isBlank

def trimEnd (cs : List Char) : List Char :=
  (cs.reverse.dropWhile isBlank).reverse

def trim (cs : List Char) : List Char :=
  trimEnd (trimStart cs)

/-- The maximal runs of characters that are not blank, in order. -/
def words : List Char → List (List Char)
  | [] => []
  | c :: cs =>
    if isBlank c then
      words cs
    else
      (c :: cs.takeWhile fun x => !isBlank x) ::
        words (cs.dropWhile fun x => !isBlank x)
  termination_by cs => cs.length
  decreasing_by
    · simp
    · exact Nat.lt_succ_of_le (List.dropWhile_sublist _).length_le

@[simp] theorem words_nil : words [] = [] := by
  rw [words]

theorem words_cons_of_isBlank {c : Char} (cs : List Char) (h : isBlank c = true) :
    words (c :: cs) = words cs := by
  rw [words, if_pos h]

theorem words_cons_of_not_isBlank {c : Char} (cs : List Char)
    (h : ¬ isBlank c = true) :
    words (c :: cs) =
      (c :: cs.takeWhile fun x => !isBlank x) ::
        words (cs.dropWhile fun x => !isBlank x) := by
  rw [words, if_neg h]

/-- A word is never empty and holds no blank. -/
theorem not_isBlank_of_mem_words {cs w : List Char} (h : w ∈ words cs) :
    w ≠ [] ∧ ∀ c ∈ w, isBlank c = false := by
  fun_induction words cs with
  | case1 => simp at h
  | case2 c cs hc ih => exact ih h
  | case3 c cs hc ih =>
    rcases List.mem_cons.1 h with rfl | h
    · refine ⟨by simp, fun x hx => ?_⟩
      rcases List.mem_cons.1 hx with rfl | hx
      · simpa using hc
      · have := List.all_takeWhile (p := fun x => !isBlank x) (l := cs)
        simpa using List.all_eq_true.1 this x hx
    · exact ih h

end Chars

def trimStart (s : String) : String :=
  String.ofList (Chars.trimStart s.toList)

def trimEnd (s : String) : String :=
  String.ofList (Chars.trimEnd s.toList)

def trim (s : String) : String :=
  String.ofList (Chars.trim s.toList)

def words (s : String) : List String :=
  (Chars.words s.toList).map String.ofList

/-- The text without its blanks. -/
def dropBlanks (s : String) : String :=
  String.ofList (s.toList.filter fun c => !isBlank c)

@[simp] theorem toList_trimEnd (s : String) :
    (trimEnd s).toList = Chars.trimEnd s.toList := by
  simp [trimEnd]

@[simp] theorem toList_trim (s : String) :
    (trim s).toList = Chars.trim s.toList := by
  simp [trim]

end CloudLift.Text
