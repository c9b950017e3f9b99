import CallbackWeave.Host.Octets
import CallbackWeave.Text.Directive

/-!
Texts that formats write. A format is used again as long as there are arguments for it. Shells and the
separate program differ in what they tell of mistakes.
-/

namespace CallbackWeave.Utility.Printf

/-- How escapes and mistakes are treated. -/
structure Dialect where
  /-- Whether characters may be written by hexadecimal numbers. -/
  hexadecimal : Bool
  quotesNames : Bool
  /-- The status after a directive that is not understood. -/
  badDirective : Nat
deriving DecidableEq, Repr

/-- The dialect of shells. -/
def Dialect.shell : Dialect := ⟨false, false, 2⟩

/-- The dialect of the separate program. -/
def Dialect.program : Dialect := ⟨true, true, 1⟩

/-- Where an escape stands. -/
inductive EscapePlace where
  | inFormat
  /-- In an argument, where octal numbers may begin with a zero more. -/
  | inArgument
deriving DecidableEq, Repr

/-- The characters of escapes of a single letter. -/
def letterEscapes : List (Char × Char) :=
  [('a', '\x07'), ('b', '\x08'), ('e', '\x1b'), ('f', '\x0c'), ('n', '\n'), ('r', '\r'), ('t', '\t'),
    ('v', '\x0b'), ('\\', '\\')]

/-- The octet that digits write, and what follows them. -/
def numberEscape (base most : Nat) (text : Octets) : Octets × Octets :=
  let digits := (text.take most).takeWhile fun c => (Number.digitValue? base c).isSome
  ([Char.ofNat ((Number.natOfDigits? base digits).getD 0 % 256)], text.drop digits.length)

/-- What a backslash and the text behind it stand for, and what follows; nothing if the output ends
here. -/
def escape? (dialect : Dialect) (place : EscapePlace) (text : Octets) : Option (Octets × Octets) :=
  match text with
  | [] => some (['\\'], [])
  | c :: rest =>
    match letterEscapes.lookup c with
    | some d => some ([d], rest)
    | none =>
      if c = 'c' && (dialect.hexadecimal || place = .inArgument) then none
      else if c = '"' && place = .inFormat && dialect.hexadecimal then some (['"'], rest)
      else if c = '0' && place = .inArgument then some (numberEscape 8 3 rest)
      else if (Number.digitValue? 8 c).isSome then some (numberEscape 8 3 text)
      else if c = 'x' && dialect.hexadecimal
          && (rest.head?.bind (Number.digitValue? 16)).isSome then
        some (numberEscape 16 2 rest)
      else if (c = 'u' || c = 'U') && dialect.hexadecimal then
        let digits := (rest.take (if c = 'u' then 4 else 8)).takeWhile fun c =>
          (Number.digitValue? 16 c).isSome
        some (Octets.ofText (String.singleton
          (Char.ofNat ((Number.natOfDigits? 16 digits).getD 0))), rest.drop digits.length)
      else some (['\\', c], rest)

/-- A text whose escapes have been replaced, and whether the output ends in it. `fuel` bounds its
length. -/
def unescaped (dialect : Dialect) : Nat → Octets → Octets × Bool
  | 0, _ => ([], false)
  | _, [] => ([], false)
  | fuel + 1, '\\' :: rest =>
    match escape? dialect .inArgument rest with
    | none => ([], true)
    | some (text, rest) =>
      let (more, ends) := unescaped dialect fuel rest
      (text ++ more, ends)
  | fuel + 1, c :: rest =>
    let (more, ends) := unescaped dialect fuel rest
    (c :: more, ends)

/-- What is left of a text that is being written. -/
structure Progress where
  arguments : List Octets
  output : Octets
  complaints : List String
  status : Nat
  /-- Nothing more is written. -/
  ended : Bool

namespace Progress

/-- Adds to the output. -/
def add (p : Progress) (text : Octets) : Progress := { p with output := p.output ++ text }

/-- Notes a mistake after which the rest is written all the same. -/
def complain (p : Progress) (complaint : String) : Progress :=
  { p with complaints := p.complaints ++ [complaint], status := 1 }

/-- Takes the next argument. -/
def next (p : Progress) : Option Octets × Progress :=
  match p.arguments with
  | [] => (none, p)
  | a :: rest => (some a, { p with arguments := rest })

/-- A name as a complaint gives it. -/
def named (dialect : Dialect) (text : Octets) : String :=
  if dialect.quotesNames then "'" ++ text.toText ++ "'" else text.toText

/-- Notes what is wrong with a number, by whether anything could be read and what was left over. -/
def check (p : Progress) (dialect : Dialect) (argument : Octets) (isRead isWhole inRange : Bool) :
    Progress :=
  if !isRead then
    p.complain (named dialect argument ++
      if dialect.quotesNames then ": expected a numeric value" else ": expected numeric value")
  else if !inRange then p.complain (named dialect argument ++ ": Numerical result out of range")
  else if !isWhole then
    p.complain (named dialect argument ++
      if dialect.quotesNames then ": value not completely converted" else ": not completely converted")
  else p

/-- Takes an argument that writes an integer; a quote before a character asks for its number. -/
def nextInteger (p : Progress) (dialect : Dialect) (isSigned : Bool) : Int × Progress :=
  match p.next with
  | (none, p) => (0, p)
  | (some [], p) => (0, if dialect.quotesNames then p.check dialect [] false true true else p)
  | (some (q :: c :: rest), p) =>
    if q = '\'' || q = '"' then (c.toNat, p) else numeric (q :: c :: rest) p
  | (some argument, p) => numeric argument p
where
  numeric (argument : Octets) (p : Progress) : Int × Progress :=
    let text := argument.dropWhile fun c => c = ' ' || '\t' ≤ c && c ≤ '\r'
    let (negative, unsigned) := Number.splitSign text
    let (base, digits) := match unsigned with
      | '0' :: x :: d :: rest =>
        if (x = 'x' || x = 'X') && (Number.digitValue? 16 d).isSome then (16, d :: rest)
        else (8, '0' :: x :: d :: rest)
      | '0' :: rest => (8, '0' :: rest)
      | rest => (10, rest)
    let found := digits.takeWhile fun c => (Number.digitValue? base c).isSome
    let value : Int := (Number.natOfDigits? base found).getD 0
    let value := if negative then -value else value
    let (low, high) : Int × Int :=
      if isSigned then (-(Int.pow 2 63), Int.pow 2 63 - 1)
      else (-(Int.pow 2 64 - 1), Int.pow 2 64 - 1)
    let inRange := low ≤ value && value ≤ high
    (if value < low then low else if value > high then high else value,
      p.check dialect argument (!found.isEmpty) (found.length = digits.length) inRange)

/-- Takes an argument that writes a floating-point number. -/
def nextFloat (p : Progress) (dialect : Dialect) : Float × Progress :=
  match p.next with
  | (none, p) => (0.0, p)
  | (some [], p) => (0.0, if dialect.quotesNames then p.check dialect [] false true true else p)
  | (some (q :: c :: rest), p) =>
    if q = '\'' || q = '"' then (c.toNat.toFloat, p) else numeric (q :: c :: rest) p
  | (some argument, p) => numeric argument p
where
  numeric (argument : Octets) (p : Progress) : Float × Progress :=
    let text := argument.dropWhile fun c => c = ' ' || '\t' ≤ c && c ≤ '\r'
    let (negative, unsigned) := Number.splitSign text
    let signed (x : Float) : Float := if negative then -x else x
    let word := String.ofList (unsigned.map Char.toLower)
    if word = "inf" || word = "infinity" then (signed (1.0 / 0.0), p)
    else if word = "nan" then (0.0 / 0.0, p)
    else
      let lengths := (List.range (text.length + 1)).reverse
      match lengths.findSome? fun n =>
        (Number.Literal.ofChars? (text.take n)).map fun literal => (n, literal) with
      | some (n, literal) =>
        (literal.toFloat, p.check dialect argument true (n = text.length) true)
      | none => (0.0, p.check dialect argument false true true)

end Progress

/-- Writes what a directive asks for. -/
def apply (dialect : Dialect) (d : Text.Directive) (p : Progress) : Option Progress :=
  match d.letter with
  | 's' =>
    let (argument, p) := p.next
    some (p.add (d.text (argument.getD [])))
  | 'c' =>
    let (argument, p) := p.next
    some (p.add (d.text (match argument with
      | some (c :: _) => [c]
      | some [] => if dialect.quotesNames then [] else ['\x00']
      | none => [])))
  | 'b' =>
    let (argument, p) := p.next
    let (text, ends) := unescaped dialect (argument.getD []).length (argument.getD [])
    some { p.add (d.text text) with ended := ends }
  | letter =>
    if letter = 'd' || letter = 'i' then
      let (value, p) := p.nextInteger dialect true
      some (p.add (d.integer value))
    else if "uoxX".toList.contains letter then
      let (value, p) := p.nextInteger dialect false
      some (p.add (d.integer value))
    else if "eEfFgG".toList.contains letter then
      let (value, p) := p.nextFloat dialect
      some (p.add (d.float value))
    else none

/-- Writes a format once. `fuel` bounds its length. -/
def once (dialect : Dialect) : Nat → Octets → Progress → Progress
  | 0, _, p => p
  | _, [], p => p
  | fuel + 1, c :: rest, p =>
    if p.ended then p
    else if c = '\\' then
      match escape? dialect .inFormat rest with
      | some (text, rest) => once dialect fuel rest (p.add text)
      | none => { p with ended := true }
    else if c ≠ '%' then
      let text := (c :: rest).takeWhile fun c => c ≠ '%' && c ≠ '\\'
      once dialect fuel ((c :: rest).drop text.length) (p.add text)
    else
      match rest with
      | '%' :: rest => once dialect fuel rest (p.add ['%'])
      | text =>
        let (d, width, precision, rest) := Text.Directive.read text
        let (d, p) := if width = .argument then
            let (n, p) := p.nextInteger dialect true
            (d.withWidth n, p)
          else (d, p)
        let (d, p) := if precision = .argument then
            let (n, p) := p.nextInteger dialect true
            (d.withPrecision n, p)
          else (d, p)
        let bad (shown : Octets) (p : Progress) : Progress :=
          { p.complain (if dialect.quotesNames then
                "%" ++ shown.toText ++ ": invalid conversion specification"
              else "%" ++ shown.toText ++ ": invalid directive") with
            ended := true, status := dialect.badDirective }
        let isSize (c : Char) : Bool := dialect.quotesNames && "hlLjzt".toList.contains c
        let rest := rest.dropWhile isSize
        match rest with
        | [] =>
          if dialect.quotesNames then bad text p
          else
            { p.complain "missing format character" with
              ended := true, status := dialect.badDirective }
        | letter :: rest =>
          match apply dialect { d with letter := letter } p with
          | some p => once dialect fuel rest p
          | none => bad (text.take (text.length - rest.length)) p

/-- Writes a format as often as there are arguments for it. `fuel` bounds the arguments. -/
def repeated (dialect : Dialect) (format : Octets) : Nat → Progress → Progress
  | 0, p => p
  | fuel + 1, p =>
    let after := once dialect format.length format p
    if after.ended || after.arguments.isEmpty || after.arguments.length = p.arguments.length then after
    else repeated dialect format fuel after

/-- Writes a format with arguments. -/
def run (dialect : Dialect) (format : Octets) (arguments : List Octets) : Progress :=
  repeated dialect format (arguments.length + 1) ⟨arguments, [], [], 0, false⟩

end CallbackWeave.Utility.Printf
