import Mender.Machine.Text.Glob
import Mender.Machine.Tool.Basic
import Mender.Machine.Tool.Number
import Mender.Machine.Tool.Options
import Mender.Machine.Tool.Quote

namespace Mender.Machine.Tool.Grep

inductive Notation where
  | basic
  | extended
  | fixed
  | perl
  deriving DecidableEq, Repr, Inhabited

inductive Directories where
  | read
  | skip
  | recurse
  deriving DecidableEq, Repr, Inhabited

inductive Binaries where
  | told
  | shown
  | skipped
  deriving DecidableEq, Repr, Inhabited

inductive Naming where
  | matching
  | others
  deriving DecidableEq, Repr, Inhabited

inductive PatternSource where
  | text (s : String)
  | file (path : String)
  deriving DecidableEq, Repr, Inhabited

structure NameRule where
  keeps : Bool
  pattern : String
  deriving DecidableEq, Repr, Inhabited

def pathEnds : List Char → List (List Char)
  | [] => [[]]
  | '/' :: cs => ('/' :: cs) :: pathEnds cs
  | c :: cs =>
    match pathEnds cs with
    | _ :: ends => (c :: cs) :: ends
    | [] => [c :: cs]

def NameRule.accepts (anywhere : Bool) (name : String) (r : NameRule) : Bool :=
  let ends := if anywhere then pathEnds name.toList else [name.toList]
  ends.any fun cs => Text.matchesGlob r.pattern (.ofList cs)

/-- Whether rules leave out a name: the last one about it counts, and where there is none it is the
other way than the first one says. -/
def leavesOut (rules : List NameRule) (anywhere : Bool) (name : String) : Bool :=
  match rules.reverse.find? (NameRule.accepts anywhere name) with
  | some r => !r.keeps
  | none => rules.head?.any (·.keeps)

structure Settings where
  how : Option Notation := none
  patterns : List PatternSource := []
  fold : Bool := false
  words : Bool := false
  whole : Bool := false
  inverted : Bool := false
  counting : Bool := false
  quiet : Bool := false
  silent : Bool := false
  naming : Option Naming := none
  most : Option Nat := none
  numbered : Bool := false
  offsets : Bool := false
  only : Bool := false
  named : Option Bool := none
  before : Option Nat := none
  after : Option Nat := none
  around : Option Nat := none
  digits : List Char := []
  separator : Option String := some "--"
  directories : Directories := .read
  fileRules : List NameRule := []
  directoryRules : List NameRule := []
  binaries : Binaries := .told
  zeroLines : Bool := false
  zeroNames : Bool := false
  tabs : Bool := false
  label : String := "(standard input)"
  color : Bool := false
  obsolete : Nat := 0
  deriving DecidableEq, Repr, Inhabited

def options : OptionSet where
  letters := "EFGHILPTUVabchilnoqRrsuvwxyZz0123456789".toList.map (·, .nothing) ++
    "ABCDXdefm".toList.map (·, .value)
  words := [("basic-regexp", .nothing, "G"), ("extended-regexp", .nothing, "E"),
    ("fixed-regexp", .nothing, "F"), ("fixed-strings", .nothing, "F"),
    ("perl-regexp", .nothing, "P"), ("after-context", .value, "A"),
    ("before-context", .value, "B"), ("binary-files", .value, "binary-files"),
    ("line-buffered", .nothing, "line-buffered"), ("byte-offset", .nothing, "b"),
    ("context", .value, "C"), ("color", .perhaps, "color"), ("colour", .perhaps, "color"),
    ("count", .nothing, "c"), ("devices", .value, "D"), ("directories", .value, "d"),
    ("exclude", .value, "exclude"), ("exclude-from", .value, "exclude-from"),
    ("exclude-dir", .value, "exclude-dir"), ("file", .value, "f"),
    ("files-with-matches", .nothing, "l"), ("files-without-match", .nothing, "L"),
    ("group-separator", .value, "group-separator"), ("help", .nothing, "help"),
    ("include", .value, "include"), ("ignore-case", .nothing, "i"),
    ("no-ignore-case", .nothing, "no-ignore-case"), ("initial-tab", .nothing, "T"),
    ("label", .value, "label"), ("line-number", .nothing, "n"), ("line-regexp", .nothing, "x"),
    ("max-count", .value, "m"), ("no-filename", .nothing, "h"),
    ("no-group-separator", .nothing, "no-group-separator"), ("no-messages", .nothing, "s"),
    ("null", .nothing, "Z"), ("null-data", .nothing, "z"), ("only-matching", .nothing, "o"),
    ("quiet", .nothing, "q"), ("recursive", .nothing, "r"),
    ("dereference-recursive", .nothing, "R"), ("regexp", .value, "e"),
    ("invert-match", .nothing, "v"), ("silent", .nothing, "q"), ("text", .nothing, "a"),
    ("binary", .nothing, "U"), ("unix-byte-offsets", .nothing, "u"),
    ("version", .nothing, "V"), ("with-filename", .nothing, "H"),
    ("word-regexp", .nothing, "w")]

inductive SettingFault where
  | badLength (text : String)
  | badCount
  | conflict
  | badBinaries
  | badDevices
  | badDirectories (text : String)
  | badMatcher (text : String)
  | badColor
  deriving DecidableEq, Repr, Inhabited

def SettingFault.message : SettingFault → String
  | badLength text => s!"{text}: invalid context length argument"
  | badCount => "invalid max count"
  | conflict => "conflicting matchers specified"
  | badBinaries => "unknown binary-files type"
  | badDevices => "unknown devices method"
  | badDirectories text => s!"invalid argument {quoted text} for '--directories'"
  | badMatcher text => s!"invalid matcher {text}"
  | badColor => "invalid color"

def lengthOf (text : String) : Except SettingFault (Option Nat) :=
  match numberInFront? (some 10) text.toList with
  | some (n, []) => if 0 ≤ n then .ok (some n.toNat) else .error (.badLength text)
  | _ => .error (.badLength text)

namespace Settings

def written (s : Settings) (how : Notation) : Except SettingFault Settings :=
  match s.how with
  | none => .ok { s with how := some how }
  | some old => if old = how then .ok s else .error .conflict

def matcherNamed (s : Settings) (name : String) : Except SettingFault Settings :=
  match name with
  | "grep" => s.written .basic
  | "egrep" | "awk" | "gawk" | "posixawk" => s.written .extended
  | "fgrep" => s.written .fixed
  | "perl" | "pcre" => s.written .perl
  | name => .error (.badMatcher name)

def withText (s : Settings) (key value : String) : Except SettingFault Settings :=
  match key with
  | "A" => return { s with after := ← lengthOf value }
  | "B" => return { s with before := ← lengthOf value }
  | "C" => return { s with around := ← lengthOf value }
  | "e" => .ok { s with patterns := s.patterns ++ [.text value] }
  | "f" => .ok { s with patterns := s.patterns ++ [.file value] }
  | "m" =>
    match numberInFront? (some 10) value.toList with
    | some (n, []) => .ok { s with most := if n < 0 then none else some n.toNat }
    | _ => .error .badCount
  | "d" =>
    match value with
    | "read" => .ok { s with directories := .read }
    | "skip" => .ok { s with directories := .skip }
    | "recurse" => .ok { s with directories := .recurse }
    | _ => .error (.badDirectories value)
  | "D" => if value = "read" ∨ value = "skip" then .ok s else .error .badDevices
  | "X" => s.matcherNamed value
  | "binary-files" =>
    match value with
    | "binary" => .ok { s with binaries := .told }
    | "text" => .ok { s with binaries := .shown }
    | "without-match" => .ok { s with binaries := .skipped }
    | _ => .error .badBinaries
  | "label" => .ok { s with label := value }
  | "include" => .ok { s with fileRules := s.fileRules ++ [⟨true, value⟩] }
  | "exclude" => .ok { s with fileRules := s.fileRules ++ [⟨false, value⟩] }
  | "exclude-dir" =>
    let name := String.ofList (value.toList.reverse.dropWhile (· = '/')).reverse
    .ok { s with directoryRules := s.directoryRules ++ [⟨false, name⟩] }
  | "group-separator" => .ok { s with separator := some value }
  | "color" =>
    if value ∈ ["always", "yes", "force"] then .ok { s with color := true }
    else if value ∈ ["never", "no", "none", "auto", "tty", "if-tty"] then
      .ok { s with color := false }
    else .error .badColor
  | _ => .ok s

def withKey (s : Settings) (key : String) : Except SettingFault Settings :=
  match key with
  | "E" => s.written .extended
  | "F" => s.written .fixed
  | "G" => s.written .basic
  | "P" => s.written .perl
  | "H" => .ok { s with named := some true }
  | "h" => .ok { s with named := some false }
  | "I" => .ok { s with binaries := .skipped }
  | "a" => .ok { s with binaries := .shown }
  | "L" => .ok { s with naming := some .others }
  | "l" => .ok { s with naming := some .matching }
  | "T" => .ok { s with tabs := true }
  | "b" => .ok { s with offsets := true }
  | "c" => .ok { s with counting := true }
  | "i" | "y" => .ok { s with fold := true }
  | "no-ignore-case" => .ok { s with fold := false }
  | "n" => .ok { s with numbered := true }
  | "o" => .ok { s with only := true }
  | "q" => .ok { s with quiet := true }
  | "R" | "r" => .ok { s with directories := .recurse }
  | "s" => .ok { s with silent := true }
  | "u" => .ok { s with obsolete := s.obsolete + 1 }
  | "v" => .ok { s with inverted := true }
  | "w" => .ok { s with words := true }
  | "x" => .ok { s with whole := true }
  | "Z" => .ok { s with zeroNames := true }
  | "z" => .ok { s with zeroLines := true }
  | "no-group-separator" => .ok { s with separator := none }
  | "color" => .ok { s with color := false }
  | key =>
    match key.toList with
    | [d] =>
      if d.isDigit then
        let digits := s.digits ++ [d]
        .ok { s with digits, around := some (decimal digits) }
      else .ok s
    | _ => .ok s

def withOptions (s : Settings) : List Given → Settings × Option SettingFault
  | [] => (s, none)
  | (key, value) :: rest =>
    let changed := match value with
      | some value => s.withText key value
      | none => s.withKey key
    match changed with
    | .ok s => s.withOptions rest
    | .error f => (s, some f)

def onlyStatus (s : Settings) (output : Output) : Bool := s.quiet || output.lost

def linesBefore (s : Settings) : Option Nat := s.before.or s.around

def linesAfter (s : Settings) : Option Nat := s.after.or s.around

end Settings

end Mender.Machine.Tool.Grep
