import WorkerSlots.Text.Alphanumeric
import WorkerSlots.Text.Bytes
import WorkerSlots.Text.Pattern

/-!
# Log filters

A filter is a list of directives with commas between them; nothing may stand between two commas.
A directive is a level, or says what it is about: a target, a span in brackets, or a target and a
span in it. A span may have a field in braces, with a value that it must have. After `=` a level
may follow, or nothing for the most talkative one.

A directive is read without the blanks around it, and the places of its pieces are counted from
its first character that is not blank. The pieces are then cut out of the whole of it, blanks
included. So blanks in front shift the pieces: a level is never a level then, a field is another
text, and a piece may begin or end inside a character.

* `LogFilter.isLevel`, `LogFilter.isField` : the texts of each kind;
* `LogFilter.Stage`, `LogFilter.Stage.next` : how a directive is read;
* `LogFilter.checkDirective`, `LogFilter.check` : what is wrong with a directive and a filter.
-/

namespace WorkerSlots

/-- Why a text is no filter. -/
inductive FilterProblem where
  /-- A directive is not of the form described above. -/
  | malformed
  /-- A piece of a directive begins or ends inside a character. -/
  | split (place : SplitCharacter)
  deriving DecidableEq

namespace LogFilter

def levels : List String := ["off", "error", "warn", "info", "debug", "trace"]

/-- Whether a text is a level: a name in any ASCII letter case, or a number up to five, which may
have a plus sign. -/
def isLevel (cs : List Char) : Bool :=
  let digits := match cs with
    | '+' :: digits => digits
    | digits => digits
  String.ofList (Text.lower cs) ∈ levels ||
    match Text.word? digits with
    | some n => n ≤ 5
    | none => false

/-- Whether a directive may begin with a character, if it does not begin with a span. -/
def startsTarget (c : Char) : Bool := Text.isAlphanumeric c || c = '-' || c = ':' || c = '_'

/-- Whether a text is an exponent: `e`, digits, and perhaps a sign between them. -/
def isExponent (cs : List Char) : Bool :=
  match cs with
  | 'e' :: '+' :: digits | 'e' :: '-' :: digits | 'e' :: digits =>
    !digits.isEmpty && digits.all Char.isDigit
  | _ => false

/-- Whether a text in lower case is a number without a sign. -/
def isMagnitude (cs : List Char) : Bool :=
  let mantissa := cs.takeWhile (· ≠ 'e')
  let exponent := cs.dropWhile (· ≠ 'e')
  String.ofList cs ∈ ["inf", "infinity", "nan"] ||
    (mantissa.any Char.isDigit && mantissa.all (fun c => c.isDigit || c = '.') &&
      mantissa.count '.' ≤ 1 && (exponent.isEmpty || isExponent exponent))

/-- Whether a text is the value of a field: a pattern, or a number. Without a plus sign a number
is a pattern, too. -/
def isValue (cs : List Char) : Bool :=
  match cs with
  | '+' :: number => isMagnitude (Text.lower number)
  | cs => Text.Pattern.isValid cs

/-- Whether a text is a field: a name, or a name and a value with `=` between them. What follows a
second `=` is ignored. -/
def isField (cs : List Char) : Bool :=
  match cs, cs.dropWhile (· ≠ '=') with
  | [], _ => false
  | _, [] => true
  | _, _ :: value => isValue (value.takeWhile (· ≠ '='))

/-- How far a directive has been read, and where the piece that is being read begins. -/
inductive Stage where
  | start
  /-- In a target, or a level without a target. -/
  | target
  | span (first : Nat)
  | field (first : Nat)
  | fieldEnd
  | spanEnd
  | level (first : Nat)
  deriving DecidableEq

def piece (text : List Char) (first last : Nat) : Except FilterProblem (List Char) :=
  (Text.piece text first last).mapError .split

def require (holds : Bool) : Except FilterProblem Unit :=
  if holds then .ok () else .error .malformed

/-- Reads the next character, which is at the place `index`. -/
def Stage.next (text : List Char) (index : Nat) (c : Char) :
    Stage → Except FilterProblem Stage
  | .start => do
    if c = '[' then return .span (index + 1)
    require (startsTarget c)
    return .target
  | .target => do
    if c = '=' then let _ ← piece text 0 index; return .level (index + 1)
    if c = '[' then let _ ← piece text 0 index; return .span (index + 1)
    return .target
  | .span first => do
    if c = ']' then let _ ← piece text first index; return .spanEnd
    if c = '\x7b' then let _ ← piece text first index; return .field (index + 1)
    return .span first
  | .field first => do
    if c = '\x7d' then require (isField (← piece text first index)); return .fieldEnd
    return .field first
  | .fieldEnd => do require (c = ']'); return .spanEnd
  | .spanEnd => do require (c = '='); return .level (index + 1)
  | .level first => return .level first

def Stage.read (text : List Char) (index : Nat) (cs : List Char) (stage : Stage) :
    Except FilterProblem Stage :=
  match cs with
  | [] => .ok stage
  | c :: cs => do read text (index + c.utf8Size) cs (← stage.next text index c)

def Stage.finish (text : List Char) : Stage → Except FilterProblem Unit
  | .target | .spanEnd => .ok ()
  | .level first => do
    let level ← piece text first (Text.byteLength text)
    require (level.isEmpty || isLevel level)
  | .start | .span _ | .field _ | .fieldEnd => .error .malformed

def checkDirective (text : List Char) : Except FilterProblem Unit := do
  (← Stage.start.read text 0 (Text.trim text)).finish text

def splitCommas : List Char → List (List Char)
  | [] => [[]]
  | ',' :: rest => [] :: splitCommas rest
  | c :: rest =>
    match splitCommas rest with
    | [] => [[c]]
    | part :: parts => (c :: part) :: parts

/-- What is wrong with a filter: the first thing that is wrong with one of its directives. -/
def check (text : String) : Except FilterProblem Unit :=
  ((splitCommas text.toList).filter (!·.isEmpty)).forM checkDirective

end LogFilter

end WorkerSlots
