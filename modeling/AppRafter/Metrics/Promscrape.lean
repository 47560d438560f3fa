import AppRafter.Lib.Text
import Mathlib.Data.List.Infix
import Mathlib.Data.List.Sort

set_option autoImplicit false

namespace AppRafter.Metrics

open Lib

abbrev Chars := List Char

def withoutCr (line : Chars) : Chars := if line.getLast? = some '\r' then line.dropLast else line

-- The lines of a text, the newlines and a carriage return before each left out.
def lines (text : Chars) : List Chars :=
  let cut := text.splitOn '\n'
  (if cut.getLast? = some [] then cut.dropLast else cut).map withoutCr

def trim (chars : Chars) : Chars := (chars.dropWhile Text.whiteSpace).rdropWhile Text.whiteSpace

def stripPre (start chars : Chars) : Option Chars := if start <+: chars then some (chars.drop start.length) else none

def stripQuote (chars : Chars) : Option Chars := if chars.getLast? = some '"' then some chars.dropLast else none

def firstField (chars : Chars) : Option Chars :=
  match (chars.dropWhile Text.whiteSpace).takeWhile fun c => !Text.whiteSpace c with
  | [] => none
  | field => some field

section Gauge

-- How a field reads as a number.
variable {Number : Type} (parseNumber : Chars → Option Number)

def gaugeOfLine (metric needle line : Chars) : Option Number :=
  if line.head? = some '#' then none else
    (stripPre metric line).bind fun rest =>
      if rest.head? ≠ some '{' ∧ rest.head? ≠ some ' ' then none
      else if needle <:+: rest then
        let afterLabels := ((Text.splitOnce '}' rest).map Prod.snd).getD rest
        (firstField afterLabels).bind parseNumber
      else none

def parseLabelledGauge (text metric label value : Chars) : Option Number :=
  let needle := label ++ '=' :: '"' :: value ++ ['"']
  (lines text).findSome? fun line => gaugeOfLine parseNumber metric needle (trim line)

end Gauge

def valueOfPart (needle part : Chars) : Option Chars := (stripPre needle (trim part)).bind stripQuote

def valuesOfLine (metric needle line : Chars) : List Chars :=
  if line.head? = some '#' ∨ ¬metric <+: line then [] else
    match line.findIdx? (· == '{'), line.findIdx? (· == '}') with
    | some start, some close =>
      if close ≤ start then [] else (((line.take close).drop (start + 1)).splitOn ',').filterMap (valueOfPart needle)
    | _, _ => []

-- Vec::dedup: of equal neighbours one stays.
def dedup : List Chars → List Chars
  | first :: second :: rest => if first = second then dedup (second :: rest) else first :: dedup (second :: rest)
  | few => few

def labelValues (body metric label : Chars) : List Chars :=
  let needle := label ++ ['=', '"']
  dedup (((lines body).flatMap fun line => valuesOfLine metric needle (trim line)).insertionSort
    fun a b => String.ofList a ≤ String.ofList b)

-- The text exposition format: samples, comments, empty lines; blanks between the tokens.
def blank (c : Char) : Bool := c == ' ' || c == '\t'

def nameChar (c : Char) : Bool := c.isAlphanum || c == '_' || c == ':'

def labelChar (c : Char) : Bool := c.isAlphanum || c == '_'

def escapeChar (c : Char) : Chars :=
  if c = '"' then ['\\', '"'] else if c = '\\' then ['\\', '\\'] else if c = '\n' then ['\\', 'n'] else [c]

def escape (value : Chars) : Chars := value.flatMap escapeChar

structure Label where
  before : Chars := []
  name : Chars
  beforeEq : Chars := []
  afterEq : Chars := []
  value : Chars
  after : Chars := []

def Label.text (label : Label) : Chars :=
  label.before ++ label.name ++ label.beforeEq ++ '=' :: label.afterEq ++ '"' :: escape label.value ++ '"' :: label.after

structure Label.Legal (label : Label) : Prop where
  named : label.name ≠ [] ∧ ∀ c ∈ label.name, labelChar c = true
  blanks : ∀ c ∈ label.before ++ label.beforeEq ++ label.afterEq ++ label.after, blank c = true

structure Sample where
  before : Chars := []
  name : Chars
  gap : Chars := []
  labels : Option (List Label)
  comma : Bool := false
  -- The value, and a timestamp after it.
  number : Chars
  after : Chars := []

def labelBlock (labels : List Label) (comma : Bool) : Chars :=
  [','].intercalate (labels.map Label.text ++ if comma then [[]] else [])

def Sample.rest (sample : Sample) : Chars :=
  sample.gap ++ sample.labels.elim [] (fun labels => '{' :: labelBlock labels sample.comma ++ ['}']) ++ sample.number

def Sample.text (sample : Sample) : Chars := sample.before ++ (sample.name ++ sample.rest) ++ sample.after

structure Sample.Legal (sample : Sample) : Prop where
  named : sample.name ≠ [] ∧ ∀ c ∈ sample.name, nameChar c = true
  blanks : ∀ c ∈ sample.before ++ sample.gap ++ sample.after, blank c = true
  labels : ∀ labels, sample.labels = some labels → ∀ label ∈ labels, label.Legal
  number : ∀ c ∈ sample.number, c ≠ '"' ∧ c ≠ '{' ∧ c ≠ '}' ∧ c ≠ '\n'
  ended : ∃ c, sample.number.getLast? = some c ∧ Text.whiteSpace c = false
  apart : sample.labels = none → sample.gap ≠ []

inductive Line where
  | empty (blanks : Chars)
  | comment (before text : Chars)
  | sample (sample : Sample)

def Line.text : Line → Chars
  | .empty blanks => blanks
  | .comment before text => before ++ '#' :: text
  | .sample shown => shown.text

def Line.Legal : Line → Prop
  | .empty blanks => ∀ c ∈ blanks, blank c = true
  | .comment before text => (∀ c ∈ before, blank c = true) ∧ '\n' ∉ text
  | .sample shown => shown.Legal

def exposition (content : List Line) : Chars := ['\n'].intercalate (content.map Line.text)

def Takes (content : List Line) (metric label value : Chars) : Prop :=
  ∃ sample labels labelled, Line.sample sample ∈ content ∧ sample.name = metric ∧ sample.labels = some labels ∧
    labelled ∈ labels ∧ labelled.name = label ∧ labelled.value = value

end AppRafter.Metrics
