import StationGateway.Log.Basic
import StationGateway.Text.Blank
import StationGateway.Text.Digit
import StationGateway.Text.Split

/-!
# Log filters

A filter is a list of directives between commas. A directive sets the least level that entries need,
for all entries, for those of a part of the gateway (`target=level`), or for those that carry a field
(`[{field}]=level`). Of the directives that are about an entry, the most specific one decides: the one
with the longest target, then one with a field, and of two that are as specific as each other the
later one. An entry that no directive is about is not written.

A directive can also be about spans of work. The gateway has none, so that such a directive selects
nothing.
-/

namespace StationGateway.Log

/-- What entries a directive is about, and the least level that they need. -/
structure Directive where
  /-- How the targets begin that the directive is about. -/
  target : Option String
  /-- The field that entries must carry. -/
  field : Option String
  /-- The least level, or none to let nothing through. -/
  threshold : Option Level
  /-- Whether the directive is about spans only. -/
  isAboutSpans : Bool
deriving DecidableEq, Repr

/-- Why a text is no directive. -/
inductive Directive.ReadError where
  | malformed
  | badLevel
deriving DecidableEq, Repr

/-- The wording of why a text is no directive. -/
def Directive.ReadError.message : Directive.ReadError → String
  | .malformed => "invalid filter directive"
  | .badLevel =>
    "error parsing level filter: expected one of \"off\", \"error\", \"warn\", \"info\", \"debug\", " ++
      "\"trace\", or a number 0-5"

/-! ## Reading -/

/-- The level with a number, counted from the one that matters most. Zero is none. -/
def thresholdOfNat? : Nat → Option (Option Level)
  | 0 => some none
  | n + 1 => Level.all[n]?.map some

/-- The number that a text of decimal digits is, after a plus sign or not. -/
def number? (s : List Char) : Option Nat :=
  let unsigned := if s.head? = some '+' then s.tail else s
  match Text.digits 10 unsigned with
  | (d :: ds, []) => some (Text.ofDigits 10 (d :: ds))
  | _ => none

/-- The least level that a text names, by a name or by a number. -/
def threshold? (s : List Char) : Option (Option Level) :=
  match (number? s).bind thresholdOfNat? with
  | some t => some t
  | none =>
    let text := String.ofList s
    if Text.sameLetters text "off" then some none
    else (Level.all.find? fun l => Text.sameLetters text l.name).map some

/-- Whether a character beyond ASCII is a sign and no letter or digit. The marks and signs of the
common blocks are told from letters; the rarer blocks count as letters. -/
def isSign (c : Char) : Bool :=
  let n := c.toNat
  (0x80 ≤ n && n ≤ 0xBF && !([0xAA, 0xB2, 0xB3, 0xB5, 0xB9, 0xBA, 0xBC, 0xBD, 0xBE].contains n)) ||
  n == 0xD7 || n == 0xF7 ||
  (0x2000 ≤ n && n ≤ 0x206F) || (0x20A0 ≤ n && n ≤ 0x20CF) || (0x2190 ≤ n && n ≤ 0x245F) ||
  (0x2500 ≤ n && n ≤ 0x2775) || (0x2794 ≤ n && n ≤ 0x2BFF) || (0x3000 ≤ n && n ≤ 0x3004) ||
  (0x3008 ≤ n && n ≤ 0x3020) || (0xE000 ≤ n && n ≤ 0xF8FF) || (0xFF01 ≤ n && n ≤ 0xFF0F) ||
  (0x1F000 ≤ n && n ≤ 0x1F0FF) || (0x1F18A ≤ n && n ≤ 0x1FAFF)

/-- Whether a target or the name of a level may begin with a character. -/
def isNameStart (c : Char) : Bool :=
  c.isAlphanum || c == '-' || c == ':' || c == '_' || (0x80 ≤ c.toNat && !isSign c)

/-- What a pair of brackets selects, from after the opening one on: the field, if there is one;
whether it is about spans; and the text after the closing bracket. A field may come with a value, which
only spans can have. -/
def brackets (s : List Char) : Option (Option String × Bool × List Char) :=
  let span := s.takeWhile fun c => c ≠ ']' && c ≠ '\x7b'
  match s.dropWhile fun c => c ≠ ']' && c ≠ '\x7b' with
  | ']' :: rest => some (none, true, rest)
  | _ :: s =>
    match Text.splitFirst '}' s with
    | ([], _) => none
    | (field, some (']' :: rest)) =>
      some (some (String.ofList field), !span.isEmpty || field.contains '=', rest)
    | _ => none
  | [] => none

/-- What a directive names before its level. -/
def Directive.subject (s : List Char) : Option (Directive × List Char) :=
  let target := s.takeWhile fun c => c ≠ '=' && c ≠ '['
  let named := if target.isEmpty then none else some (String.ofList target)
  match s.dropWhile fun c => c ≠ '=' && c ≠ '[' with
  | '[' :: s => do
    let (field, isAboutSpans, rest) ← brackets s
    return (⟨named, field, some .trace, isAboutSpans⟩, rest)
  | rest => some (⟨named, none, some .trace, false⟩, rest)

/-- Reads a directive. A text alone names a level if it can, and a target otherwise; where no level is
named, everything is let through. Blanks around a directive become part of what it names, so that it
selects nothing, and no level has blanks. -/
def Directive.read (s : List Char) : Except Directive.ReadError Directive :=
  let trimmed := Text.trim s
  let isPadded := trimmed.length ≠ s.length
  match trimmed with
  | [] => .error .malformed
  | c :: _ =>
    if c ≠ '[' && !isNameStart c then .error .malformed
    else
      match subject trimmed with
      | none => .error .malformed
      | some (d, '=' :: level) =>
        if isPadded then .error .badLevel
        else if level.isEmpty then .ok d
        else
          match threshold? level with
          | some t => .ok { d with threshold := t }
          | none => .error .badLevel
      | some (d, []) =>
        if isPadded then .ok { d with target := some (String.ofList s) }
        else if trimmed.contains '[' then .ok d
        else
          match threshold? trimmed with
          | some t => .ok { d with target := none, threshold := t }
          | none => .ok d
      | some (_, _ :: _) => .error .malformed

/-! ## Filtering -/

/-- Whether a directive is about an entry. -/
def Directive.selects (d : Directive) (e : Entry) : Bool :=
  !d.isAboutSpans && d.target.all (·.toList.isPrefixOf e.target.toList) && d.field.all e.fieldNames.contains

/-- How specific a directive is: the length of its target, whether it has a field, and last the field
itself, so that two directives about one entry that are equal in all three name the same. -/
def Directive.isAtMostAsSpecific (d d' : Directive) : Bool :=
  let length (d : Directive) : Nat := d.target.elim 0 (·.utf8ByteSize + 1)
  let field (d : Directive) : Nat := d.field.elim 0 fun _ => 1
  if length d ≠ length d' then length d < length d'
  else if field d ≠ field d' then field d < field d'
  else d.field.getD "" ≤ d'.field.getD ""

/-- The directives of a filter, in order. -/
abbrev Filter := List Directive

namespace Filter

/-- The directive that decides about an entry. -/
def directive? (f : Filter) (e : Entry) : Option Directive :=
  (f.filter (·.selects e)).foldl
    (fun best d => if best.all (·.isAtMostAsSpecific d) then some d else best) none

/-- Whether an entry is written. -/
def enables (f : Filter) (e : Entry) : Bool :=
  match (f.directive? e).bind (·.threshold) with
  | some least => e.level.rank ≤ least.rank
  | none => false

/-- The pieces of the text of a filter, each with the directive it is. -/
def pieces (text : String) : List (String × Except Directive.ReadError Directive) :=
  ((Text.split ',' text.toList).filter (!·.isEmpty)).map fun s => (String.ofList s, Directive.read s)

/-- The filter that a text is, if each of its pieces is a directive. -/
def readStrictly (text : String) : Except Directive.ReadError Filter :=
  (pieces text).mapM (·.2)

/-- The filter that lets errors through. -/
def errorsOnly : Filter :=
  [⟨none, none, some .error, false⟩]

/-- The filter of the directives in a text, and the pieces that are none. Without any directive only
errors are let through. -/
def readLeniently (text : String) : Filter × List (String × Directive.ReadError) :=
  let directives := (pieces text).filterMap fun (_, r) => r.toOption
  let ignored := (pieces text).filterMap fun
    | (s, .error e) => some (s, e)
    | (_, .ok _) => none
  (if directives.isEmpty then errorsOnly else directives, ignored)

/-- The filter of a run: what the environment says, if that is a filter; else what the settings say.
With it go the pieces of the settings that were passed over. -/
def ofSettings (environment : Option String) (level : String) :
    Filter × List (String × Directive.ReadError) :=
  match environment.map readStrictly with
  | some (.ok f) => (f, [])
  | _ => readLeniently level

end Filter

end StationGateway.Log
