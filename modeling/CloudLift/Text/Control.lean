/-!
# Control characters

Two ways to keep a text from steering the terminal that shows it: the characters that can
steer are spelled out, or they are left out together with what belongs to them.
-/

namespace CloudLift.Text

/-! ### Spelling out -/

/-- A lower-case hexadecimal digit. -/
def hexDigit (n : Nat) : Char :=
  if n < 10 then Char.ofNat ('0'.toNat + n) else Char.ofNat ('a'.toNat + (n - 10))

/-- Two hexadecimal digits. -/
def hexByte (n : Nat) : List Char :=
  [hexDigit (n / 16), hexDigit (n % 16)]

namespace Chars

/-- The text for one character: bell, backspace, form feed, escape and delete have a short
spelling, and the control characters of the second kind a long one. -/
def spell (c : Char) : List Char :=
  let n := c.toNat
  if n = 0x07 ∨ n = 0x08 ∨ n = 0x0C ∨ n = 0x1B ∨ n = 0x7F then
    '\\' :: 'x' :: hexByte n
  else if 0x80 ≤ n ∧ n ≤ 0x9F then
    '\\' :: 'u' :: '\x7b' :: (hexByte n ++ ['\x7d'])
  else
    [c]

end Chars

/-- The text with the characters that can steer a terminal spelled out. -/
def spelled (s : String) : String :=
  String.ofList (s.toList.flatMap Chars.spell)

/-! ### Leaving out -/

/-- What the characters before a place have begun. -/
inductive Begun where
  | nothing
  /-- An escape, which the next character continues. -/
  | escape
  /-- An escape that goes on with marks, up to a letter. -/
  | marked
  /-- A sequence of numbers, up to a letter. -/
  | sequence
  /-- A command to the terminal, up to a bell. -/
  | command
  /-- A message that only another escape ends. -/
  | message
  deriving DecidableEq, Repr

def isBlankControl (c : Char) : Bool :=
  c == '\t' || c == '\n' || c == '\u000c' || c == '\r'

/-- Whether a character is a control character that leaves nothing to see. -/
def isHiddenControl (c : Char) : Bool :=
  (c.toNat < 0x20 && !isBlankControl c) || c.toNat == 0x7F

namespace Begun

/-- What a character other than a control character makes of an escape. -/
def afterEscape (c : Char) : Begun :=
  if c == '[' then .sequence
  else if c == ']' then .command
  else if c == 'P' || c == 'X' || c == '^' || c == '_' then .message
  else if c.toNat < 0x30 then .marked
  else .nothing

/-- What is begun after a character, and whether the character is shown. -/
def step (begun : Begun) (c : Char) : Begun × Bool :=
  let n := c.toNat
  if n = 0x1B then
    (.escape, false)
  else if n = 0x18 ∨ n = 0x1A then
    (.nothing, false)
  else
    match begun with
    | .nothing => (.nothing, !isHiddenControl c)
    | .command => (if n = 0x07 then .nothing else .command, false)
    | .message => (.message, false)
    | other =>
      if isBlankControl c then (.nothing, true)
      else if isHiddenControl c ∨ 0x80 ≤ n then (other, false)
      else
        match other with
        | .escape => (afterEscape c, false)
        | .marked => (if n < 0x30 then .marked else .nothing, false)
        | _ => (if n < 0x40 then .sequence else .nothing, false)

end Begun

namespace Chars

/-- The characters that are shown, where `begun` is what precedes them. -/
def bareAfter (begun : Begun) : List Char → List Char
  | [] => []
  | c :: cs =>
    let (begun, shown) := begun.step c
    if shown then c :: bareAfter begun cs else bareAfter begun cs

theorem bareAfter_nothing {cs : List Char} (h : ∀ c ∈ cs, isHiddenControl c = false) :
    bareAfter .nothing cs = cs := by
  induction cs with
  | nil => rfl
  | cons c cs ih =>
    have hc : isHiddenControl c = false := h c (by simp)
    have ne (n : Nat) (hn : isHiddenControl (Char.ofNat n) = true) : c.toNat ≠ n := by
      intro e
      rw [← e, Char.ofNat_toNat, hc] at hn
      exact Bool.noConfusion hn
    have hs : Begun.step .nothing c = (.nothing, true) := by
      simp [Begun.step, ne 0x1B (by decide), ne 0x18 (by decide), ne 0x1A (by decide), hc]
    simp only [bareAfter, hs, if_true]
    rw [ih fun d hd => h d (by simp [hd])]

end Chars

/-- The text without control sequences, and without the control characters that show
nothing. -/
def bare (s : String) : String :=
  String.ofList (Chars.bareAfter .nothing s.toList)

end CloudLift.Text
