import CodeSurvey.Image.Hit
import CodeSurvey.Insn.Listing
import CodeSurvey.Json.Forms
import CodeSurvey.Segment

/-!
# Reports

The answers of the commands, as lines of text or as JSON.

- `ListingLine` : one instruction of a listing
- `Report.segments`, `listing`, `hits`, `coverage` : the answers
-/

namespace CodeSurvey.CommandLine

open Json

/-- One instruction of a listing, with its bytes. -/
structure ListingLine where
  address : Address
  length : Nat
  bytes : String
  mnemonic : String
  kind : String
  deriving DecidableEq, Repr

namespace ListingLine

def ofInsn (c : Code) (i : Insn) : ListingLine where
  address := i.start
  length := i.length
  bytes := Text.hexBytes " " ((i.bytesIn? c).getD [])
  mnemonic := i.mnemonic
  kind := i.kind.label

def text (l : ListingLine) : String :=
  l.address.text ++ " " ++ Text.padRight 30 l.bytes ++ " " ++ l.mnemonic

def json (l : ListingLine) : Value :=
  .object [("address", l.address.json), ("length", .number l.length),
    ("bytes", .string l.bytes), ("mnemonic", .string l.mnemonic), ("class", .string l.kind)]

end ListingLine

namespace Report

/-- One line per item, two blanks in. -/
def indented (items : List String) : List String :=
  items.map fun s => "  " ++ s

def arrayLines (items : List Value) : List String :=
  [(Value.array items).pretty]

def segmentJson (s : Segment) : Value :=
  .object [("end", s.stop.json), ("index", .number s.index),
    ("protection", .string s.protection.text), ("start", s.start.json)]

def segments (asJson : Bool) (ss : List Segment) : List String :=
  if asJson then arrayLines (ss.map segmentJson) else indented (ss.map Segment.text)

def listing (asJson : Bool) (ls : List ListingLine) : List String :=
  if asJson then arrayLines (ls.map ListingLine.json) else indented (ls.map ListingLine.text)

/-- The hits and their number. -/
def hits (asJson : Bool) (hs : List Hit) : List String :=
  if asJson then arrayLines (hs.map Hit.json)
  else if hs.isEmpty then ["[-] No matches"]
  else indented (hs.map Hit.text) ++ ["[+] " ++ toString hs.length ++ " match(es)"]

/-- The segment that covers a range, or that there is none. -/
def coverage (asJson : Bool) (start : Address) (size : Nat) (flags : Protection)
    (found : Option Segment) : List String :=
  if asJson then
    [(Value.object [("contained", .bool found.isSome),
      ("segment", .ofOption (found.map Segment.index))]).compact]
  else
    match found with
    | some s => ["[+] Contained in " ++ s.text]
    | none =>
      ["[-] No " ++ flags.text ++ " segment covers " ++ Text.hexMarked start.toNat ++ "+"
        ++ Text.hexMarked size]

/-- The image that was read. -/
def loaded (binary : String) (base : Address) : String :=
  "[*] Loaded " ++ binary ++ " (mapped at " ++ base.text ++ ")"

end Report

end CodeSurvey.CommandLine
