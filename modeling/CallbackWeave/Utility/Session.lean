import CallbackWeave.Utility.Options

/-!
Programs that tell who the user is and what the machine is.
-/

namespace CallbackWeave.Utility

namespace Session

/-- The number and the name of the user and of the group. -/
def number : Octets := ['0']
def user : Octets := "root".toList

/-- Tells lines, if no operand stands in the way. -/
def tell (text : Octets) (p : Parsed) : Task Nat := do
  match p.operands with
  | [] => Task.printLine text; return 0
  | extra :: _ => misuse 1 ("extra operand " ++ quoted extra)

def identityOptions : OptionTable :=
  ⟨"agGnruzZ",
    [("group", 'g', .none), ("groups", 'G', .none), ("name", 'n', .none), ("real", 'r', .none),
      ("user", 'u', .none), ("zero", 'z', .none)], true⟩

/-- Tells who the user is. -/
def identity (p : Parsed) : Task Nat := do
  match p.operands.find? fun name => name ≠ user && name ≠ number with
  | some name =>
    Task.complain (quoted name ++ ": no such user")
    return 1
  | none =>
    if p.has 'u' || p.has 'g' || p.has 'G' then
      Task.printLine (if p.has 'n' then user else number)
      return 0
    else if p.has 'n' || p.has 'r' then
      Task.complain "cannot print only names or real IDs in default format"
      return 1
    else
      Task.printLine "uid=0(root) gid=0(root) groups=0(root)".toList
      return 0

def machineOptions : OptionTable :=
  ⟨"asnrvmpio",
    [("all", 'a', .none), ("kernel-name", 's', .none), ("nodename", 'n', .none),
      ("kernel-release", 'r', .none), ("kernel-version", 'v', .none), ("machine", 'm', .none),
      ("processor", 'p', .none), ("hardware-platform", 'i', .none), ("operating-system", 'o', .none)],
    true⟩

/-- What is told about the machine, by letters. -/
def machineParts : List (Char × String) :=
  [('s', "Linux"), ('n', "localhost"), ('r', "6.1.0"), ('v', "#1 SMP"), ('m', "x86_64"),
    ('p', "x86_64"), ('i', "x86_64"), ('o', "GNU/Linux")]

/-- Tells what the machine is. -/
def machine (p : Parsed) : Task Nat :=
  let asked := machineParts.filter fun (letter, _) => p.has letter || p.has 'a'
  let asked := if p.options.isEmpty then machineParts.take 1 else asked
  tell (" ".intercalate (asked.map Prod.snd)).toList { p with options := [] }

/-- Tells that the input is no terminal. -/
def terminal (p : Parsed) : Task Nat := do
  if !p.has 's' then Task.printLine "not a tty".toList
  return 1

/-- Tells that nobody has logged in. -/
def login (_ : Parsed) : Task Nat := do
  Task.complain "no login name"
  return 1

/-- The prime factors of a number. `fuel` bounds the steps, and `d` is the next one to be tried. -/
def factors : Nat → Nat → Nat → List Nat
  | 0, _, n => [n]
  | fuel + 1, d, n =>
    if n < 2 then []
    else if n < d * d then [n]
    else if n % d = 0 then d :: factors fuel d (n / d)
    else factors fuel (d + if d = 2 then 1 else 2) n

/-- Tells the prime factors of numbers, which are the operands or the words of the input. -/
def runFactors (p : Parsed) : Task Nat := do
  let words ← if p.operands.isEmpty then do
      let text := (← Task.readAll 0).toOption.getD []
      let spaced := text.map fun c => if c = '\n' || c = '\t' then ' ' else c
      pure ((spaced.splitOn ' ').filter (!·.isEmpty))
    else pure p.operands
  let mut status := 0
  for word in words do
    match Number.natOfDigits? 10 (if word.head? = some '+' then word.drop 1 else word) with
    | some n =>
      let found := (factors (n + 1) 2 n).flatMap fun f => ' ' :: Octets.ofNat f
      Task.printLine (Octets.ofNat n ++ ':' :: found)
    | none =>
      Task.complain (quoted word ++ " is not a valid positive integer")
      status := 1
  return status

end Session

end CallbackWeave.Utility
