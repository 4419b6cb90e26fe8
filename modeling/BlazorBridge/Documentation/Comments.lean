import BlazorBridge.Documentation.Tags

/-!
# Comments above a declaration

Two things are taken from the lines above a declaration: the comment lines that touch it, which
become the documentation of the generated method, and the documentation block that touches it,
whose tags state types. Both go upwards from the declaration, and both look at lines without the
white space around them. Lines are listed with the nearest first, and nothing but these lines counts.
-/

namespace BlazorBridge.Documentation

/-- The lines above a declaration, trimmed, the nearest first. `before` is the text in front of the
declaration; what of it stands on the declaration's own line counts as a line unless blank. -/
def linesAbove (before : Text) : List Text :=
  match ((Text.lines before).map Text.trim).reverse with
  | [] => []
  | own :: above => if own.isEmpty then above else own :: above

/-! ## Comment lines -/

/-- The mark of a line comment. -/
def lineMark : Text := "//".toList

/-- The mark that opens a block comment. -/
def openMark : Text := "/*".toList

/-- The mark that closes a block comment. -/
def closeMark : Text := "*/".toList

/-- The mark that opens a documentation block. -/
def docMark : Text := "/**".toList

/-- Going upwards, a line is a comment if it starts with a mark, lies in a block already entered, or
closes a block without opening one. -/
def isComment (inBlock : Bool) (line : Text) : Bool :=
  Text.startsWith lineMark line || Text.startsWith openMark line || Text.startsWith ['*'] line ||
    inBlock || (Text.endsWith closeMark line && !Text.has openMark line)

/-- Whether the line above a comment line lies in a block: a line that closes a block enters one,
and a line that starts by opening a block leaves it. -/
def inBlockAbove (inBlock : Bool) (line : Text) : Bool :=
  if Text.startsWith openMark line then false
  else inBlock || (Text.endsWith closeMark line && !Text.startsWith lineMark line)

/-- The comment lines that touch the declaration, up to the first blank line or line of code. -/
def commentRun (inBlock : Bool) : List Text → List Text
  | [] => []
  | line :: above =>
    if line.isEmpty || !isComment inBlock line then []
    else line :: commentRun (inBlockAbove inBlock line) above

/-- The content of a comment line: what is left without its marks. -/
def content (line : Text) : Text :=
  match Text.after? lineMark line with
  | some rest => Text.trim rest
  | none =>
    let inner := line.dropWhile (fun c => c == '/' || c == '*')
    Text.trim (if Text.endsWith closeMark inner then Text.dropEnd 2 inner else inner)

/-- The documentation lines of a declaration, from the top down: the contents of the comment lines
that touch it, less those that are empty. -/
def commentLines (above : List Text) : List Text :=
  (((commentRun false above).map content).filter (!·.isEmpty)).reverse

/-! ## Documentation blocks -/

/-- The lines of a documentation block that ends on the first line given, the nearest first. The
topmost is cut at its last opening mark, and that mark must be one of a documentation block. -/
def blockUp : List Text → Option (List Text)
  | [] => none
  | line :: above =>
    match Text.fromLast openMark line with
    | some top => if Text.startsWith docMark top then some [top] else none
    | none => (blockUp above).map (line :: ·)

/-- The lines of the documentation block that touches the declaration, from the top down. Only line
comments may stand between the two. -/
def blockLines (above : List Text) : Option (List Text) :=
  match above.dropWhile (Text.startsWith lineMark) with
  | [] => none
  | line :: rest =>
    if Text.endsWith closeMark line then (blockUp (line :: rest)).map List.reverse else none

/-- The types that the documentation block of a declaration states; none without a block. -/
def typeTags (above : List Text) : TypeTags :=
  match blockLines above with
  | some block => TypeTags.ofText (Text.join ['\n'] block)
  | none => {}

end BlazorBridge.Documentation
