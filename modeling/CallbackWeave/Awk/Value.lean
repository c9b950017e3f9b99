import CallbackWeave.Number.Leading
import CallbackWeave.Regex.Reader
import CallbackWeave.Text.Directive

/-!
Values and arrays. A value is a number and a text at the same time; a text from outside that writes a
number is compared as one. An array remembers in which order its elements have been asked for, because
that decides the order in which they are gone through.
-/

namespace CallbackWeave.Awk

/-- A value. -/
inductive Value where
  | unset
  | number (value : Float)
  | text (value : Octets)
  /-- A text from outside that writes a number. -/
  | numeral (text : Octets) (value : Float)
deriving Repr, Inhabited

namespace Value

/-- A text from outside. -/
def ofInput (t : Octets) : Value :=
  match Number.wholeText? t with
  | some x => numeral t x
  | none => text t

/-- A count. -/
def ofNat (n : Nat) : Value := number (Float.ofNat n)

/-- A condition. -/
def ofBool (b : Bool) : Value := number (if b then 1.0 else 0.0)

/-- The number that a value is. -/
def toNumber : Value → Float
  | unset => 0.0
  | number x => x
  | numeral _ x => x
  | text t => ((Number.leading? t).map Prod.fst).getD 0.0

/-- Whether a value counts as true. -/
def isTrue : Value → Bool
  | unset => false
  | number x | numeral _ x => x != 0.0
  | text t => !t.isEmpty

/-- A number as an integer of sixty-four bits, rounded towards zero and kept in bounds. -/
def integerOf (x : Float) : Int :=
  match Number.truncated? x with
  | some n => max (-(Int.pow 2 63)) (min (Int.pow 2 63 - 1) n)
  | none => if x.isInf && x > 0.0 then Int.pow 2 63 - 1 else -(Int.pow 2 63)

/-- A whole number that is written without a format. -/
def whole? (x : Float) : Option Int :=
  ((Number.whole? x).filter fun n => -(Int.pow 2 63) ≤ n && n ≤ Int.pow 2 64).map
    (min (Int.pow 2 64 - 1))

/-- Why a format cannot be used. -/
inductive FormatFault where
  | fewArguments
  | badDirective (number : Nat)
deriving DecidableEq, Repr

/-- The text of a number in a format that has one directive. -/
def numberText (format : Octets) (x : Float) : Octets :=
  match whole? x with
  | some n => Octets.ofInt n
  | none =>
    let front := format.takeWhile (· ≠ '%')
    let (d, _, _, rest) := Text.Directive.read (format.drop (front.length + 1))
    match rest with
    | letter :: rest =>
      let d := { d with letter := letter }
      let body := if "eEfFgG".toList.contains letter then d.float x else d.integer (integerOf x)
      front ++ body ++ rest
    | [] => front

/-- The text that a value is, with the format of numbers. -/
def toText (format : Octets) : Value → Octets
  | unset => []
  | number x => numberText format x
  | text t | numeral t _ => t

/-- Whether a value is compared as a number. -/
def isNumeric : Value → Bool
  | text _ => false
  | _ => true

/-- How two values are ordered; texts are compared unless both are numbers. -/
def order (format : Octets) (a b : Value) : Ordering :=
  if a.isNumeric && b.isNumeric then
    let x := a.toNumber
    let y := b.toNumber
    if x < y then .lt else if x > y then .gt else .eq
  else
    let s := a.toText format
    let t := b.toText format
    if s = t then .eq else if s.precedes t then .lt else .gt

/-! ## Formats -/

/-- What a directive makes of a value, if the directive is known. -/
def written? (format : Octets) (d : Text.Directive) (v : Value) : Option Octets :=
  match d.letter with
  | 's' => some (d.text (v.toText format))
  | 'c' =>
    some ({ d with precision := none }.text (match v with
      | number x | numeral _ x => [Char.ofNat (integerOf x % 256).toNat]
      | text (c :: _) => [c]
      | _ => ['\x00']))
  | '%' => some ['%']
  | letter =>
    if "dioxXu".toList.contains letter then some (d.integer (integerOf v.toNumber))
    else if "eEfFgG".toList.contains letter then some (d.float v.toNumber)
    else none

/-- The value of a width or a precision, if it is an argument, and the arguments that are left. -/
def takeExtent (e : Text.Extent) (arguments : List Value) : Option (Option Int × List Value) :=
  match e, arguments with
  | .argument, [] => none
  | .argument, v :: arguments => some (some (integerOf v.toNumber), arguments)
  | _, arguments => some (none, arguments)

/-- A text with the directives of a format carried out, up to one that cannot be. `count` is the number
of directives before, and `fuel` bounds those that follow. -/
def formatted (format : Octets) : Nat → Nat → Octets → List Value → Octets × Option FormatFault
  | 0, _, _, _ => ([], none)
  | fuel + 1, count, template, arguments =>
    let front := template.takeWhile (· ≠ '%')
    match template.drop front.length with
    | [] => (front, none)
    | '%' :: '%' :: rest =>
      let (more, fault) := formatted format fuel count rest arguments
      (front ++ '%' :: more, fault)
    | _ :: directive =>
      let (d, width, precision, rest) := Text.Directive.read directive
      let extents := (takeExtent width arguments).bind fun (width, arguments) =>
        (takeExtent precision arguments).map fun (precision, arguments) =>
          (width, precision, arguments)
      match extents, rest.dropWhile fun c => c = 'l' || c = 'h' with
      | none, _ => (front, some .fewArguments)
      | some _, [] => (front, some (.badDirective (count + 1)))
      | some (width, precision, arguments), letter :: rest =>
        let d := { d with letter := letter }
        let d := (width.map d.withWidth).getD d
        let d := (precision.map d.withPrecision).getD d
        match written? format d .unset, arguments with
        | none, _ => (front, some (.badDirective (count + 1)))
        | some _, [] => (front, some .fewArguments)
        | some _, v :: arguments =>
          let (more, fault) := formatted format fuel (count + 1) rest arguments
          (front ++ (written? format d v).getD [] ++ more, fault)

end Value

/-! ## Arrays -/

/-- What stands for an element: a small whole number, or a text. -/
inductive Key where
  | int (n : Int)
  | text (t : Octets)
deriving DecidableEq, Repr

/-- The key that a value is. -/
def Key.ofValue (format : Octets) (v : Value) : Key :=
  match v with
  | .number x =>
    match (Value.whole? x).filter fun n => -(Int.pow 2 31) < n && n < Int.pow 2 31 with
    | some n => int n
    | none => text (v.toText format)
  | v => text (v.toText format)

/-- The text of a key. -/
def Key.toText : Key → Octets
  | int n => Octets.ofInt n
  | text t => t

/-- An array. -/
structure Table where
  values : List (Octets × Value)
  /-- The elements that have been asked for by numbers, the last one first. -/
  numbers : List Int
  /-- The elements that have been asked for by texts, the last one first. -/
  texts : List Octets
  /-- Whether all elements are among those that have been asked for by texts. -/
  hasTexts : Bool
deriving Repr, Inhabited

namespace Table

/-- An array without elements. -/
def empty : Table := ⟨[], [], [], false⟩

/-- A number that tells texts apart. -/
def fingerprint (t : Octets) : Nat :=
  t.foldl (fun h c => (h ^^^ c.toNat) * 16777619 % Nat.pow 2 32) 2166136261

/-- The number of drawers in which the elements of an array lie. -/
def drawers (count : Nat) : Nat := go 64 20
where
  /-- The same, at least so many. `fuel` bounds how often they are doubled. -/
  go (n : Nat) : Nat → Nat
    | 0 => n
    | fuel + 1 => if count ≤ n * 12 then n else go (2 * n) fuel

/-- An array in which all elements can be asked for by texts. -/
def withTexts (t : Table) : Table :=
  if t.hasTexts then t
  else
    let size := drawers t.values.length
    let sorted := t.numbers.mergeSort fun a b => a % size ≤ b % size
    { t with hasTexts := true, texts := sorted.foldl (fun texts n => Octets.ofInt n :: texts) t.texts }

/-- Asks for an element by a text. -/
def touchText (t : Table) (creates : Bool) (key : Octets) : Table :=
  let t := t.withTexts
  if (t.values.lookup key).isSome then { t with texts := key :: t.texts.filter (· ≠ key) }
  else if creates then { t with values := (key, .unset) :: t.values, texts := key :: t.texts }
  else t

/-- Asks for an element, which is made if need be. -/
def touch (t : Table) (creates : Bool) : Key → Table
  | .text key => t.touchText creates key
  | .int n =>
    if t.numbers.contains n then { t with numbers := n :: t.numbers.filter (· ≠ n) }
    else
      let key := Octets.ofInt n
      if t.hasTexts then
        let t := t.touchText creates key
        if (t.values.lookup key).isSome then { t with numbers := n :: t.numbers } else t
      else if creates then
        { t with values := (key, .unset) :: t.values, numbers := n :: t.numbers }
      else t

/-- The value of an element. -/
def get (t : Table) (key : Key) : Value := (t.values.lookup key.toText).getD .unset

/-- An array with another value for an element that it has. -/
def set (t : Table) (key : Key) (v : Value) : Table :=
  let text := key.toText
  { t with values := t.values.map fun (k, old) => if k = text then (k, v) else (k, old) }

/-- Whether an array has an element. -/
def has (t : Table) (key : Key) : Bool := (t.values.lookup key.toText).isSome

/-- An array without an element. -/
def erase (t : Table) (key : Key) : Table :=
  let t := t.touch false key
  let text := key.toText
  { t with
    values := t.values.filter (·.1 ≠ text)
    numbers := t.numbers.filter fun n => Octets.ofInt n ≠ text
    texts := t.texts.filter (· ≠ text) }

/-- An array with some values, whose keys count from one. -/
def ofList (values : List Value) : Table :=
  let numbered := values.zipIdx.map fun (v, i) => (Octets.ofNat (i + 1), v)
  ⟨numbered, ((List.range values.length).map fun i => Int.ofNat (i + 1)).reverse, [], false⟩

/-- The keys in the order in which they are gone through. -/
def keys (t : Table) : List Octets :=
  let t := t.withTexts
  let size := drawers t.values.length
  t.texts.mergeSort fun a b => fingerprint a % size ≤ fingerprint b % size

end Table

/-! ## Parts of texts -/

/-- What separates fields. -/
inductive Separator where
  | blanks
  /-- Each character is a field. -/
  | nothing
  | sign (c : Char)
  | regex (r : Regex)

/-- How regular expressions are written. -/
def dialect : Regex.Dialect := ⟨true, true, true, false, true⟩

/-- What a text means as a separator. -/
def Separator.ofText (text : Octets) : Except Regex.Fault Separator := do
  match text with
  | [] => return .nothing
  | [' '] => return .blanks
  | [c] => return .sign c
  | text => return .regex (← Regex.read dialect text)

/-- The parts of a text between the places that fit, from an index on. `fuel` bounds the places. -/
def partsFrom (r : Regex) (s : Subject) : Nat → Nat → Nat → List Octets
  | 0, first, _ => [s.slice first s.text.size]
  | fuel + 1, first, start =>
    match r.search s start with
    | none => [s.slice first s.text.size]
    | some (i, f) =>
      if f.stop = i then
        if i < s.text.size then partsFrom r s fuel first (i + 1) else [s.slice first s.text.size]
      else s.slice first i :: partsFrom r s fuel f.stop f.stop

/-- The parts of a text. -/
def Separator.parts (separator : Separator) (text : Octets) : List Octets :=
  match separator with
  | .blanks =>
    (text.splitOnP fun c => c = ' ' || '\t' ≤ c && c ≤ '\r').filter fun part => !part.isEmpty
  | .nothing => text.map fun c => [c]
  | .sign c => if text.isEmpty then [] else text.splitOn c
  | .regex r =>
    if text.isEmpty then [] else partsFrom r (Subject.ofText text false) (text.length + 1) 0 0

/-- A text up to the next end of a record, and what follows it; nothing if there is no text. -/
def takeRecord (separator : Octets) (text : Octets) : Except Regex.Fault (Option (Octets × Octets)) := do
  match separator with
  | [] =>
    let text := text.dropWhile (· = '\n')
    if text.isEmpty then return none
    else
      let ends := (List.range text.length).find? fun i => "\n\n".toList.isPrefixOf (text.drop i)
      match ends with
      | some i => return some (text.take i, (text.drop i).dropWhile (· = '\n'))
      | none => return some (Octets.chomp text, [])
  | [c] =>
    if text.isEmpty then return none
    else
      let (front, rest) := Octets.splitAt c text
      return some (front, rest.getD [])
  | pattern =>
    if text.isEmpty then return none
    else
      let s := Subject.ofText text false
      match (← Regex.read dialect pattern).search s 0 with
      | some (i, f) =>
        if i < f.stop then return some (s.slice 0 i, text.drop f.stop) else return some (text, [])
      | none => return some (text, [])

/-- A text with what a replacement says in the place of what fits, once or everywhere, and the number of
places. `last` is the end of the place before, and `fuel` bounds the places. -/
def replacedFrom (r : Regex) (s : Subject) (write : Octets → Octets) (everywhere : Bool) :
    Nat → Nat → Option Nat → Octets × Nat
  | 0, start, _ => (s.slice start s.text.size, 0)
  | fuel + 1, start, last =>
    match r.search s start with
    | none => (s.slice start s.text.size, 0)
    | some (first, f) =>
      let isEmpty := first = f.stop
      let behind := if isEmpty then s.slice first (first + 1) else []
      let next := if isEmpty then first + 1 else f.stop
      let goOn : Octets × Nat :=
        if next > s.text.size then ([], 0)
        else replacedFrom r s write everywhere fuel next (some f.stop)
      if isEmpty && last = some first then
        (s.slice start first ++ behind ++ goOn.1, goOn.2)
      else
        let front := s.slice start first ++ write (s.slice first f.stop)
        if everywhere then (front ++ behind ++ goOn.1, goOn.2 + 1)
        else (front ++ s.slice f.stop s.text.size, 1)

/-- What is put in the place of something found. An ampersand stands for what was found unless it is
escaped; backslashes in front of one escape each other. `slashes` is the number of backslashes before. -/
def replacement (found : Octets) : Nat → Octets → Octets
  | slashes, [] => List.replicate slashes '\\'
  | slashes, c :: rest =>
    if c = '\\' then replacement found (slashes + 1) rest
    else if c = '&' then
      List.replicate (slashes / 2) '\\' ++ (if slashes % 2 = 1 then ['&'] else found)
        ++ replacement found 0 rest
    else List.replicate slashes '\\' ++ c :: replacement found 0 rest

/-- Some characters of a text, from a place and of a length that need not be whole numbers. -/
def substring (text : Octets) (start : Float) (length : Option Float) : Octets :=
  let first := Value.integerOf start
  let count := match length with
    | some length => Value.integerOf length - (if first < 0 then first else 0)
    | none => text.length
  (text.drop (first - 1).toNat).take count.toNat

end CallbackWeave.Awk
