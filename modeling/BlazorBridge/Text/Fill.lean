import BlazorBridge.Text.Blank
import BlazorBridge.Text.Digit
import BlazorBridge.Text.Word

/-!
# Filled text

Breaking a text into lines of limited width. The text is cut into chunks: runs of spaces, words, the
parts of hyphenated words, and long dashes. A line takes as many chunks as fit; spaces at its end and
at the start of the next are dropped. A chunk wider than a line is broken where the line ends, or
behind the last hyphen before that.
-/

namespace BlazorBridge.Text

/-! ## Chunks -/

/-- Whether a character is a space of ASCII. -/
def isPlainSpace (c : Char) : Bool := c == ' ' || ('\t' ≤ c && c ≤ '\r')

/-- Whether a character is a letter or an underscore. -/
def isLetter (c : Char) : Bool := isWord c && !isDigit c

/-- Whether a character can stand directly before a long dash. -/
def isBeforeDash (c : Char) : Bool := isWord c || "!\"'&.,?".toList.contains c

/-- Whether a long dash, at least two hyphens with a word behind them, begins here. `before` is what
stands in front, the nearest character first. -/
def dashHere (before after : Text) : Bool :=
  before.head?.any isBeforeDash && 2 ≤ (after.takeWhile (· == '-')).length &&
    startsWithWord (after.dropWhile (· == '-'))

/-- Whether a hyphen stands here behind which a compound word may be broken. -/
def hyphenHere (before after : Text) : Bool :=
  (match before with
    | a :: b :: _ =>
      isLetter a && (isLetter b || (b == '-' && (before.drop 2).head?.any isLetter))
    | _ => false) &&
  match after with
  | '-' :: a :: rest =>
    isLetter a && (rest.head?.any isLetter ||
      (rest.head? == some '-' && (rest.drop 1).head?.any isLetter))
  | _ => false

/-- The number of characters in the part of a word that begins here. -/
def wordLength (before : Text) : Text → Nat
  | [] => 0
  | c :: rest =>
    if hyphenHere (c :: before) rest then 2
    else if rest.isEmpty || rest.head?.any isPlainSpace then 1
    else if dashHere (c :: before) rest then 1
    else 1 + wordLength (c :: before) rest

/-- The number of characters in the chunk that begins here. -/
def chunkLength (before after : Text) : Nat :=
  match (after.takeWhile isPlainSpace).length with
  | 0 =>
    if dashHere before after then (after.takeWhile (· == '-')).length else wordLength before after
  | spaces => spaces

/-- Cuts a text into chunks; `left` characters still belong to the current one. Both `chunk` and
`before` have their latest character first. -/
def chunksFrom (left : Nat) (chunk before : Text) : Text → List Text
  | [] => [chunk.reverse]
  | c :: rest =>
    if left = 0 then
      chunk.reverse :: chunksFrom (chunkLength before (c :: rest) - 1) [c] (c :: before) rest
    else chunksFrom (left - 1) (c :: chunk) (c :: before) rest

/-- The chunks of a text, none of them empty. -/
def chunks (t : Text) : List Text := (chunksFrom 0 [] [] t).filter (!·.isEmpty)

/-! ## Lines -/

/-- Whether a text has at most `room` characters. No more of it is looked at than that. -/
def isWithin (room : Nat) (t : Text) : Bool := (t.drop room).isEmpty

/-- The chunks that fit into `room` characters, and the others. -/
def takeFitting (room : Nat) : List Text → List Text × List Text
  | [] => ([], [])
  | chunk :: rest =>
    if isWithin room chunk then
      let (line, others) := takeFitting (room - chunk.length) rest
      (chunk :: line, others)
    else ([], chunk :: rest)

/-- Where a chunk is broken that must share `room` characters: behind the last hyphen there, if
something else than hyphens stands before it, and otherwise where the room ends. -/
def breakAt (room : Nat) (chunk : Text) : Nat :=
  let front := ((chunk.take room).reverse.dropWhile (· != '-')).reverse
  if front.dropLast.any (· != '-') then front.length else room

/-- Drops the last chunk of a line if it is blank. -/
def dropBlankEnd (line : List Text) : List Text :=
  match line.getLast? with
  | some last => if isBlank last then line.dropLast else line
  | none => line

/-- The lines of at most `width` characters that the chunks make. `first` says that no line stands
before them. Every round uses up a character, so the number of characters bounds the rounds. -/
def linesFrom (width : Nat) : Nat → Bool → List Text → List Text
  | 0, _, _ => []
  | rounds + 1, first, chunks =>
    let chunks :=
      match chunks with
      | chunk :: rest => if isBlank chunk && !first then rest else chunk :: rest
      | [] => []
    match takeFitting width chunks with
    | (line, []) => ([dropBlankEnd line].filter (!·.isEmpty)).map List.flatten
    | (line, chunk :: rest) =>
      let (line, others) :=
        if !isWithin width chunk then
          let cut := breakAt (width - line.flatten.length) chunk
          (line ++ [chunk.take cut], chunk.drop cut :: rest)
        else (line, chunk :: rest)
      match dropBlankEnd line with
      | [] => linesFrom width rounds first others
      | kept => kept.flatten :: linesFrom width rounds false others

/-- A text with every run of ASCII white space written as one space. -/
def singleSpaced : Text → Text
  | [] => []
  | c :: rest =>
    if isPlainSpace c then
      if rest.head?.any isPlainSpace then singleSpaced rest else ' ' :: singleSpaced rest
    else c :: singleSpaced rest

/-- A text filled into lines of at most `width` characters. -/
def fill (width : Nat) (t : Text) : List Text :=
  let t := trim (singleSpaced t)
  linesFrom width (2 * t.length + 2) true (chunks t)

end BlazorBridge.Text
