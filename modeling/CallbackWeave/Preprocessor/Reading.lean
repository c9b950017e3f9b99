import CallbackWeave.Preprocessor.Directive

/-!
Reading a source to its end. `Act.next` takes a token with all names replaced, and `Act.printAll` prints
all of them.
-/

namespace CallbackWeave.Preprocessor

namespace Act

/-- Leaves a file that has been read. -/
def leave (f : Frame) (outer : List Frame) : Act Unit := do
  if !f.branches.isEmpty then fail "unterminated #if" ⟨1, 1⟩
  match f.returns with
  | (name, line, marks) :: _ =>
    changeFrame fun f => { f with name := name, marks := marks }
    if (← read).marked then markLine line " 2".toList
  | [] => pure ()
  modify fun s =>
    { s with
      frames := outer, skipping := false
      guards := (f.guard.map fun name => (f.path, name)).toList ++ s.guards }
  if !outer.isEmpty && f.returns.isEmpty && (← read).marked then markLine f.resume " 2".toList

/-- The next token of the files. Directives are carried out on the way. -/
def nextInFiles (again : Act Token) : Nat → Act Token
  | 0 => return Token.finish
  | fuel + 1 => do
    let s ← get
    match s.frames with
    | [] => return Token.finish
    | f :: outer =>
      match f.tokens with
      | [] =>
        if s.stage ≠ .outside then return Token.finish
        leave f outer
        nextInFiles again fuel
      | t :: more =>
        if t.first && t.isHash && s.stage ≠ .opening then
          let line := more.takeWhile (!·.first)
          set { s with frames := { f with tokens := more.drop line.length } :: outer }
          runDirective again line t.place
          nextInFiles again fuel
        else if s.skipping then
          set { s with frames := { f with tokens := more.dropWhile (!·.first) } :: outer }
          nextInFiles again fuel
        else
          set { s with frames := { f with tokens := more } :: outer }
          if t.first && s.stage = .outside then
            let _ ← goTo t.place
          return { t with spaced := t.spaced || t.first && s.stage = .collecting }

/-- What a token is when its name has been looked up. -/
def settle (again : Act Token) (t : Token) : Act Token := do
  if t.kind ≠ .name || t.fixed then return t
  match ← macro? t.text with
  | none => return t
  | some m =>
    let s ← get
    if s.busy.contains t.text then return { t with fixed := true }
    else if s.holds then return t
    else
      match m with
      | .builtin .pragma =>
        if s.inDirective then return t
        match ← arguments? again t 1 false with
        | some ([[text]], _) =>
          let inner := unquoted ((text.text.dropWhile (· ≠ '"')).drop 1).dropLast
          runPragma (Token.ofPiece inner) t.place
          let _ ← goTo ⟨t.place.line, 1⟩
          again
        | _ =>
          fail "_Pragma takes a parenthesized string literal" t.place
          again
      | _ =>
        if ← enter again m t then
          if s.inDirective then again
          else return { Token.padding (some t.spaced) with place := t.place }
        else return t

/-- The next token of what has taken the place of names, or of the files. -/
def step (again : Act Token) : Act Token := do
  let s ← get
  match s.expansions with
  | [] => if s.closed then return Token.finish else settle again (← nextInFiles again tokenLimit)
  | ⟨name, place, []⟩ :: outer =>
    if s.closed && outer.isEmpty then return Token.finish
    set { s with expansions := outer, busy := name.elim s.busy fun n => s.busy.erase n }
    let _ := place
    if s.inDirective then again else return Token.padding none
  | ⟨name, place, t :: more⟩ :: outer =>
    set { s with expansions := ⟨name, place, more⟩ :: outer }
    let t := { t with place := place.getD t.place }
    if t.joins then
      let joined ← join tokenLimit t
      push none none [joined]
      if s.inDirective then again else return { Token.padding (some t.spaced) with place := t.place }
    else settle again t

/-- The next token. `fuel` bounds how deep replacements are nested. -/
def next : Nat → Act Token
  | 0 => return Token.finish
  | fuel + 1 => step (next fuel)

/-- Prints all tokens. -/
def printAll : Nat → Act Unit
  | 0 => return
  | fuel + 1 => do
    let t ← next tokenLimit
    if t.kind = .finish then return
    print t
    printAll fuel

/-- Prints what a file gives. The number of its first line is told. -/
def printFile (path content : Octets) : Act Unit := do
  openFile path [] content 0
  markLine 1 []
  printAll tokenLimit
  endLine

/-- Takes in the file of a header before any other. -/
def printHeader (name : Octets) : Act Unit := do
  let outside : Frame :=
    { tokens := [], path := "./".toList, name := "<command-line>".toList, shift := 0, marks := []
      branches := [], guard := none, resume := 0, returns := [] }
  modify fun s => { s with frames := [outside] }
  takeIn name true false 0 ⟨0, 0⟩
  printAll tokenLimit

end Act

end CallbackWeave.Preprocessor
