import CodeSurvey.Json.Number

/-!
# Passing over values

Any well-formed JSON value, to any depth. Only its form is checked: numbers may be of any size and
string escapes need not form characters.

- `skipValue` : the text behind a value
-/

namespace CodeSurvey.Json

/-- An open bracket. -/
inductive Frame
  | list
  | object
  deriving DecidableEq, Repr

def Frame.unfinished : Frame → Unfinished
  | .list => .list
  | .object => .object

def Frame.closer : Frame → Char
  | .list => ']'
  | .object => '\x7d'

def Frame.expectedNext : Frame → Cause
  | .list => .expectedListCommaOrEnd
  | .object => .expectedObjectCommaOrEnd

/-- Closes brackets for as long as closers follow, up to the comma in front of the next item.
Without an open bracket left, the value is complete. -/
def closeFrames : List Frame → List Char → Except Problem (List Frame × List Char)
  | [], cs => .ok ([], cs)
  | frame :: frames, cs =>
    match skipBlanks cs with
    | [] => fail (.ended frame.unfinished) []
    | c :: cs =>
      if c = ',' then .ok (frame :: frames, cs)
      else if c = frame.closer then closeFrames frames cs
      else failAt frame.expectedNext (c :: cs)

/-- The name and colon in front of an object's value. -/
def skipName (cs : List Char) : Except Problem (List Char) :=
  match skipBlanks cs with
  | [] => fail (.ended .object) []
  | '"' :: cs => do readColon (← skipStringBody cs)
  | cs => failAt .keyMustBeString cs

/-- Passes over a word, a number or a string. -/
def skipScalar : List Char → Except Problem (List Char)
  | [] => fail (.ended .value) []
  | 'n' :: cs => readWord "ull".toList cs
  | 't' :: cs => readWord "rue".toList cs
  | 'f' :: cs => readWord "alse".toList cs
  | '"' :: cs => skipStringBody cs
  | '-' :: cs => (readLiteral .invalidNumber true cs).map Prod.snd
  | c :: cs =>
    if isDigit c then (readLiteral .invalidNumber false (c :: cs)).map Prod.snd
    else failAt .expectedValue (c :: cs)

/-- Opens a bracket, unless it is closed at once. -/
def openFrame (frame : Frame) (cs : List Char) : Except Problem (Bool × List Char) :=
  match skipBlanks cs with
  | [] => fail (.ended frame.unfinished) []
  | c :: rest => if c = frame.closer then .ok (false, rest) else .ok (true, c :: rest)

/-- Passes over values until all open brackets are closed. Each round reads at least one character,
so as many rounds as there are characters are enough. -/
def skipItems : (rounds : Nat) → List Frame → List Char → Except Problem (List Char)
  | 0, _, cs => fail (.ended .value) cs
  | rounds + 1, frames, cs => do
    let cs ← if frames.head? = some .object then skipName cs else .ok cs
    let (frames, cs) ← match skipBlanks cs with
      | '[' :: cs => enter .list frames (← openFrame .list cs)
      | '\x7b' :: cs => enter .object frames (← openFrame .object cs)
      | cs => do closeFrames frames (← skipScalar cs)
    match frames, cs with
    | [], cs => return cs
    | frames, cs => skipItems rounds frames cs
where
  /-- Goes on inside a bracket, or behind it if it was closed at once. -/
  enter (frame : Frame) (frames : List Frame) :
      Bool × List Char → Except Problem (List Frame × List Char)
    | (true, cs) => .ok (frame :: frames, cs)
    | (false, cs) => closeFrames frames cs

def skipValue (cs : List Char) : Except Problem (List Char) :=
  skipItems (cs.length + 1) [] cs

end CodeSurvey.Json
