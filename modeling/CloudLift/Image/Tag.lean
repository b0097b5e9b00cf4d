import CloudLift.Text.Cut
import CloudLift.Text.Lowercase

/-!
# Operating system tags

A source names the operating system of a machine by a tag such as `"Ubuntu22_64"`.
Images have names such as `ubuntu-22-04-lts`.  The part of the tag before its first
underscore, with a hyphen before its first digit and one at its end, in lower case and
without quotes, is what an image name is searched for.
-/

namespace CloudLift.Image

namespace Chars

/-- What stands before the first underscore. -/
def tagBase (tag : List Char) : List Char :=
  tag.takeWhile (· ≠ '_')

/-- Puts a hyphen before the first digit, if there is one. -/
def hyphenate : List Char → List Char
  | [] => []
  | c :: cs => if c.isDigit then '-' :: c :: cs else c :: hyphenate cs

def imageKey (tag : List Char) : List Char :=
  Text.Chars.lowercase (hyphenate ((tagBase tag).filter (· ≠ '"')) ++ ['-'])

end Chars

/-- The text that the name of a suitable image holds. -/
def imageKey (tag : String) : String :=
  String.ofList (Chars.imageKey tag.toList)

end CloudLift.Image
