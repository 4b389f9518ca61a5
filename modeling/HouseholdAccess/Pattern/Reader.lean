import HouseholdAccess.Pattern.Tree
import HouseholdAccess.Text.CharacterClass
import HouseholdAccess.Text.CharacterName

/-!
# Reading patterns

A pattern text is cut into tokens, where a backslash and the character after it
are one token, and read by recursive descent: alternatives of sequences of
pieces. Reading keeps count of the groups, because a reference needs a group
that is complete, and inside a look behind one that was complete before it.

`Pattern.read` gives the tree with the options that hold for all of it, or why
there is none.
-/

namespace HouseholdAccess.Pattern

/-- A token of a pattern text. -/
inductive Token
  /-- A character. -/
  | plain (c : Char)
  /-- A backslash with the character after it. -/
  | escaped (c : Char)
  deriving DecidableEq

/-- The characters of a token. -/
def Token.chars : Token → List Char
  | .plain c => [c]
  | .escaped c => ['\\', c]

/-- The tokens of a pattern text, and whether it ends in a lone backslash. -/
def tokens : List Char → List Token × Bool
  | [] => ([], false)
  | ['\\'] => ([], true)
  | '\\' :: c :: rest =>
    let (ts, dangling) := tokens rest
    (.escaped c :: ts, dangling)
  | c :: rest =>
    let (ts, dangling) := tokens rest
    (.plain c :: ts, dangling)

/-- A number that no group has. -/
def groupLimit : Nat := 1073741823

/-- How far a pattern has been read. -/
structure Progress where
  /-- The tokens ahead. -/
  rest : List Token
  /-- Whether a lone backslash follows the last token. -/
  dangling : Bool
  /-- The options of the whole pattern, as far as given. -/
  options : Options
  /-- The width of each group, by number from one on, once it is complete. -/
  groups : Array (Option Width)
  /-- The numbers of the named groups. -/
  names : List (String × Nat)
  /-- Inside a look behind, the number of groups in front of it. -/
  behind : Option Nat
  /-- The group numbers that conditions refer to. -/
  conditions : List Nat
  /-- How many calls the reading is within, for the groups around it. -/
  depth : Nat := 0
  /-- The most calls that the reading has been within. -/
  deepest : Nat := 0

/-- A step of reading a pattern. How far it has come is known even if the text is no pattern. -/
abbrev Reading := ExceptT Trouble (StateM Progress)

namespace Reading

/-- Reads within so many more calls. -/
def within {α : Type} (calls : Nat) (r : Reading α) : Reading α := do
  modify fun p => { p with
    depth := p.depth + calls
    deepest := max p.deepest (p.depth + calls) }
  let a ← r
  modify fun p => { p with depth := p.depth - calls }
  return a

/-- The text is not a pattern. -/
def malformed {α : Type} : Reading α := throw .malformed

/-- The next token, if there is one. -/
def next : Reading (Option Token) := return (← get).rest.head?

/-- Moves past the next token. A lone backslash at the end is found as soon as it comes next. -/
def advance : Reading Unit := do
  let p ← get
  let rest := p.rest.tail
  if rest.isEmpty && p.dangling then malformed
  set { p with rest }

/-- Takes the next token. -/
def take : Reading (Option Token) := do
  let t ← next
  advance
  return t

/-- Takes the next token, which must be there. -/
def takeSome : Reading Token := do
  match ← take with
  | some t => return t
  | none => malformed

/-- Takes the next token if it is the given character. -/
def accept (c : Char) : Reading Bool := do
  if (← next) = some (.plain c) then
    advance
    return true
  else
    return false

/-- Takes the next token, which must be the given character. -/
def expect (c : Char) : Reading Unit := do
  unless ← accept c do malformed

/-- Takes up to `n` characters while they satisfy a condition. -/
def takeWhile (accepts : Char → Bool) : Nat → Reading (List Char)
  | 0 => return []
  | n + 1 => do
    match ← next with
    | some (.plain c) =>
      if accepts c then
        advance
        return c :: (← takeWhile accepts n)
      else
        return []
    | _ => return []

/-- The digits that tokens start with, and the tokens after them. -/
def splitDigits : List Token → List Char × List Token
  | .plain c :: rest =>
    if c.isDigit then
      let (digits, rest) := splitDigits rest
      (c :: digits, rest)
    else ([], .plain c :: rest)
  | ts => ([], ts)

/-- Takes the digits ahead. -/
def takeDigits : Reading (List Char) := do
  let p ← get
  let (digits, rest) := splitDigits p.rest
  if !digits.isEmpty && rest.isEmpty && p.dangling then malformed
  set { p with rest }
  return digits

/-- Takes the characters up to a mark and the mark; there must be some. -/
def takeUntil (mark : Char) : Reading String := do
  let rest := (← get).rest
  let found := rest.takeWhile (· ≠ .plain mark)
  let rest := rest.drop found.length
  if found.isEmpty || rest.isEmpty then malformed
  modify fun p => { p with rest }
  advance
  return String.ofList (found.flatMap Token.chars)

/-- The number of groups that have been opened, and one more. -/
def groupCount : Reading Nat := return (← get).groups.size + 1

/-- Whether a group is complete. -/
def isComplete (group : Nat) : Reading Bool := do
  return ((← get).groups[group - 1]?.bind id).isSome && group ≠ 0

/-- Refuses a reference, inside a look behind, to a group that is not complete in front of it. -/
def checkBehind (group : Nat) : Reading Unit := do
  match (← get).behind with
  | none => return
  | some count =>
    unless ← isComplete group do malformed
    if count ≤ group then malformed

/-- Opens a group, under a name that is not taken if it has one. -/
def openGroup (name : Option String) : Reading Nat := do
  let p ← get
  let index := p.groups.size + 1
  match name with
  | some n =>
    if (p.names.lookup n).isSome then malformed
    set { p with groups := p.groups.push none, names := (n, index) :: p.names }
  | none => set { p with groups := p.groups.push none }
  return index

/-- The width of a complete group. -/
def widthOf (groups : Array (Option Width)) (group : Nat) : Width :=
  (groups[group - 1]?.bind id).getD ⟨0, 0⟩

/-- Completes a group. -/
def closeGroup (index : Nat) (body : List Node) : Reading Unit :=
  modify fun p =>
    { p with groups := p.groups.set! (index - 1) (some (width (widthOf p.groups) body)) }

end Reading

open Reading

/-- The value of a hexadecimal digit. -/
def hexDigit (c : Char) : Nat :=
  if c.isDigit then c.toNat - 48 else c.toLower.toNat - 87

/-- Whether a character is a hexadecimal digit. -/
def isHexDigit (c : Char) : Bool :=
  c.isDigit || ('a' ≤ c && c ≤ 'f') || ('A' ≤ c && c ≤ 'F')

/-- Whether a character is an octal digit. -/
def isOctalDigit (c : Char) : Bool := '0' ≤ c && c ≤ '7'

/-- The number that digits spell in a base. -/
def digitsValue (base : Nat) (cs : List Char) : Nat :=
  cs.foldl (fun n c => base * n + hexDigit c) 0

/-- A character given by exactly `count` hexadecimal digits. -/
def readHex (count : Nat) : Reading Nat := do
  let digits ← takeWhile isHexDigit count
  if digits.length = count then return digitsValue 16 digits else malformed

/-- A character given by its name in braces. -/
def readNamed : Reading Nat := do
  expect (Char.ofNat 123)
  let name ← takeUntil (Char.ofNat 125)
  match CharacterName.lookup? name with
  | some c => return c
  | none => malformed

/-- Escapes that stand for a control character. -/
def controlEscape? : Char → Option Nat
  | 'a' => some 7
  | 'b' => some 8
  | 'f' => some 12
  | 'n' => some 10
  | 'r' => some 13
  | 't' => some 9
  | 'v' => some 11
  | '\\' => some 92
  | _ => none

/-- Escapes that stand for a class. -/
def categoryEscape? : Char → Option SetItem
  | 'd' => some (.category false .digit)
  | 'D' => some (.category true .digit)
  | 's' => some (.category false .blank)
  | 'S' => some (.category true .blank)
  | 'w' => some (.category false .word)
  | 'W' => some (.category true .word)
  | _ => none

/-- Escapes that stand for a place. -/
def anchorEscape? : Char → Option Anchor
  | 'A' => some .textStart
  | 'b' => some (.boundary false)
  | 'B' => some (.boundary true)
  | 'Z' => some .textEnd
  | _ => none

/-- Escapes by code or name, which sets and sequences share. -/
def readCodeEscape (c : Char) : Reading (Option Nat) := do
  match c with
  | 'x' => return some (← readHex 2)
  | 'u' => return some (← readHex 4)
  | 'U' =>
    let code ← readHex 8
    if 0x110000 ≤ code then malformed
    return some code
  | 'N' => return some (← readNamed)
  | _ => return none

/-- An escape inside a set. -/
def readSetEscape (c : Char) : Reading SetItem := do
  if let some code := controlEscape? c then return .char code
  if let some item := categoryEscape? c then return item
  if let some code := ← readCodeEscape c then return .char code
  if isOctalDigit c then
    let code := digitsValue 8 (c :: (← takeWhile isOctalDigit 2))
    if 0o377 < code then malformed
    return .char code
  if c.isDigit || (c.isAlpha) then malformed
  return .char c.toNat

/-- An escape that is a digit other than zero: the text of a group, or three octal digits. -/
def readNumberEscape (c : Char) : Reading Node := do
  let second ← takeWhile Char.isDigit 1
  let octal ← match second, ← next with
    | [d], some (.plain e) =>
      if isOctalDigit c && isOctalDigit d && isOctalDigit e then
        advance
        pure (some (digitsValue 8 [c, d, e]))
      else pure none
    | _, _ => pure none
  match octal with
  | some code =>
    if 0o377 < code then malformed
    return .char false code
  | none =>
    let group := digitsValue 10 (c :: second)
    if (← groupCount) ≤ group then malformed
    unless ← isComplete group do malformed
    checkBehind group
    return .back group

/-- An escape outside a set. -/
def readEscape (c : Char) : Reading Node := do
  if let some item := categoryEscape? c then return .set false [item]
  if let some a := anchorEscape? c then return .anchor a
  if let some code := controlEscape? c then return .char false code
  if let some code := ← readCodeEscape c then return .char false code
  if c = '0' then
    return .char false (digitsValue 8 (c :: (← takeWhile isOctalDigit 2)))
  if c.isDigit then return ← readNumberEscape c
  if c.isAlpha then malformed
  return .char false c.toNat

/-- One end of a range in a set, or an item on its own. -/
def readSetItem : Token → Reading SetItem
  | .escaped c => readSetEscape c
  | .plain c => return .char c.toNat

/-- The items of a set up to its closing bracket; one that comes first is an item. -/
def readSetItems : Nat → List SetItem → Reading (List SetItem)
  | 0, _ => malformed
  | fuel + 1, items => do
    let this ← takeSome
    if this = .plain ']' && !items.isEmpty then return items.reverse
    let low ← readSetItem this
    unless ← accept '-' do return ← readSetItems fuel (low :: items)
    let that ← takeSome
    if that = .plain ']' then return (.char '-'.toNat :: low :: items).reverse
    match low, ← readSetItem that with
    | .char a, .char b =>
      if b < a then malformed
      readSetItems fuel (.range a b :: items)
    | _, _ => malformed

/-- A set, after its opening bracket. -/
def readSet (fuel : Nat) : Reading Node := do
  let negated ← accept '^'
  let items ← readSetItems fuel []
  match items with
  | [.char c] => return .char negated c
  | _ =>
    match items.eraseDups with
    | [.char c] => return .char negated c
    | items => return .set negated items

/-- The option that a letter stands for. -/
def optionOf? : Char → Option Options
  | 'i' => some { ignoreCase := true }
  | 'm' => some { multiline := true }
  | 's' => some { dotAll := true }
  | 'x' => some { verbose := true }
  | 'a' => some { ascii := true }
  | 't' => some { template := true }
  | 'u' => some { unicode := true }
  | _ => none

/-- The option that a token stands for. -/
def tokenOption (t : Token) : Reading Options := do
  match t with
  | .plain c =>
    match optionOf? c with
    | some o => return o
    | none => malformed
  | .escaped _ => malformed

/-- The letters of options to add, up to the mark that ends them. -/
def readAdded : Nat → Options → Token → Reading (Options × Token)
  | 0, _, _ => malformed
  | fuel + 1, added, t => do
    let o ← tokenOption t
    let added := added.union o
    if o.choosesClasses && added.ascii && added.unicode then malformed
    let t ← takeSome
    if t = .plain ')' || t = .plain '-' || t = .plain ':' then return (added, t)
    readAdded fuel added t

/-- The letters of options to remove, up to the colon. -/
def readRemoved : Nat → Options → Token → Reading Options
  | 0, _, _ => malformed
  | fuel + 1, removed, t => do
    let o ← tokenOption t
    if o.choosesClasses then malformed
    let removed := removed.union o
    let t ← takeSome
    if t = .plain ':' then return removed
    readRemoved fuel removed t

/-- Options after `(?`: those of the whole pattern give `none`, those of a group what it adds and
    removes. -/
def readOptions (fuel : Nat) (first : Token) : Reading (Option (Options × Options)) := do
  let (added, t) ← if first = .plain '-' then pure ({}, first) else readAdded fuel {} first
  if t = .plain ')' then
    modify fun p => { p with options := p.options.union added }
    return none
  if added.template then malformed
  let removed ← if t = .plain '-' then readRemoved fuel {} (← takeSome) else pure {}
  if removed.template then malformed
  if added.without removed ≠ added then malformed
  return some (added, removed)

/-- The counts of a repetition in braces, or none if the brace stands for itself. -/
def readCounts : Reading (Option (Nat × Option Nat)) := do
  if (← next) = some (.plain (Char.ofNat 125)) then return none
  let before ← get
  let low ← takeDigits
  let high ← if ← accept ',' then takeDigits else pure low
  unless ← accept (Char.ofNat 125) do
    set before
    return none
  let least := digitsValue 10 low
  if !low.isEmpty && unlimited ≤ least then throw .repetitionTooLarge
  if high.isEmpty then return some (least, none)
  let greatest := digitsValue 10 high
  if unlimited ≤ greatest then throw .repetitionTooLarge
  if greatest < least then malformed
  return some (least, some greatest)

/-- Repeats the last of the pieces read so far, which are in reverse. -/
def repeatLast (least : Nat) (greatest : Option Nat) : List Node → Reading (List Node)
  | [] => malformed
  | node :: before => do
    if node.isAnchor || node.isLoop then malformed
    let body := flatten [node]
    if ← accept '?' then return .loop .reluctant least greatest body :: before
    if ← accept '+' then return .loop .possessive least greatest body :: before
    return .loop .greedy least greatest body :: before

/-- Skips a comment in parentheses. -/
def skipComment : Reading Unit := do
  let rest := (← get).rest
  let left := rest.dropWhile (· ≠ .plain ')')
  if left.isEmpty then malformed
  modify fun p => { p with rest := left }
  advance

/-- Skips a comment up to the end of the line. -/
def skipLine : Reading Unit := do
  modify fun p => { p with rest := p.rest.dropWhile (· ≠ .plain '\n') }
  if (← get).rest.isEmpty && (← get).dangling then malformed
  unless (← get).rest.isEmpty do advance

/-- Whether a character is a blank that verbose patterns may hold anywhere. -/
def isVerboseBlank (c : Char) : Bool :=
  c = ' ' || c = '\t' || c = '\n' || c = '\r' || c = '\x0b' || c = '\x0c'

/-- The number that a text in digits of any script spells, with blanks around it, a sign, and
    single underscores between digits. -/
def integer? (s : String) : Option Int :=
  let blank (c : Char) := CharacterClass.isBlank c.toNat
  let cs := ((s.toList.dropWhile blank).reverse.dropWhile blank).reverse
  let (negative, cs) := match cs with
    | '-' :: cs => (true, cs)
    | '+' :: cs => (false, cs)
    | cs => (false, cs)
  let step (acc : Option (Nat × Bool)) (c : Char) : Option (Nat × Bool) := do
    let (n, afterDigit) ← acc
    if c = '_' then if afterDigit then some (n, false) else none
    else
      let d ← CharacterClass.decimalValue? c.toNat
      some (10 * n + d, true)
  match cs.foldl step (some (0, false)) with
  | some (n, true) => some (if negative then -(n : Int) else n)
  | _ => none

/-- The group that a condition asks for, by name or by number. -/
def readConditionGroup : Reading Nat := do
  let name ← takeUntil ')'
  let group ←
    if CharacterClass.isIdentifier name then
      match (← get).names.lookup name with
      | some group => pure group
      | none => malformed
    else
      match integer? name with
      | some n =>
        if n ≤ 0 || (groupLimit : Int) ≤ n then malformed
        modify fun p => { p with conditions := n.toNat :: p.conditions }
        pure n.toNat
      | none => malformed
  checkBehind group
  return group

/-- The name of a group, up to a mark. -/
def readGroupName (mark : Char) : Reading String := do
  let name ← takeUntil mark
  if CharacterClass.isIdentifier name then return name else malformed

/-- A reference to a named group. -/
def readNamedBack : Reading Node := do
  let name ← readGroupName ')'
  match (← get).names.lookup name with
  | none => malformed
  | some group =>
    unless ← isComplete group do malformed
    checkBehind group
    return .back group

/-- How a group that is not a look, a comment, a condition or a reference goes on. -/
inductive GroupHead
  /-- A captured group, maybe under a name. -/
  | captured (name : Option String)
  /-- A group that is not captured, with options changed inside. -/
  | plain (added removed : Options)
  /-- A group that is matched in one way only. -/
  | atomic

mutual

/-- Alternatives of sequences. The options of the whole pattern come at its very start, and
    `top` says whether this is all of it. -/
def readChoice (fuel : Nat) (verbose top : Bool) : Reading (List Node) := do
  match fuel with
  | 0 => malformed
  | fuel + 1 =>
    let first ← readSequence fuel verbose top []
    match ← readMore fuel verbose top with
    | [] => return first
    | more => return shorten (first :: more)

/-- The alternatives after the first one. -/
def readMore (fuel : Nat) (verbose top : Bool) : Reading (List (List Node)) := do
  match fuel with
  | 0 => malformed
  | fuel + 1 =>
    unless ← accept '|' do return []
    let verbose ← if top then pure (← get).options.verbose else pure verbose
    let branch ← readSequence fuel verbose false []
    return branch :: (← readMore fuel verbose top)

/-- A sequence of pieces, given those read so far in reverse; `first` says whether options of the
    whole pattern may still come. -/
def readSequence (fuel : Nat) (verbose first : Bool) (before : List Node) :
    Reading (List Node) := do
  match fuel with
  | 0 => malformed
  | fuel + 1 =>
    match ← next with
    | none => return flatten before.reverse
    | some (.escaped c) =>
      advance
      readSequence fuel verbose first ((← readEscape c) :: before)
    | some (.plain c) =>
      if c = '|' || c = ')' then return flatten before.reverse
      advance
      if verbose && isVerboseBlank c then return ← readSequence fuel verbose first before
      if verbose && c = '#' then
        skipLine
        return ← readSequence fuel verbose first before
      match c with
      | '[' => readSequence fuel verbose first ((← readSet fuel) :: before)
      | '.' => readSequence fuel verbose first (.any :: before)
      | '^' => readSequence fuel verbose first (.anchor .start :: before)
      | '$' => readSequence fuel verbose first (.anchor .finish :: before)
      | '?' => readSequence fuel verbose first (← repeatLast 0 (some 1) before)
      | '*' => readSequence fuel verbose first (← repeatLast 0 none before)
      | '+' => readSequence fuel verbose first (← repeatLast 1 none before)
      | '\x7b' =>
        match ← readCounts with
        | some (least, greatest) =>
          readSequence fuel verbose first (← repeatLast least greatest before)
        | none => readSequence fuel verbose first (.char false c.toNat :: before)
      | '(' =>
        if ← accept '?' then
          readExtension fuel verbose first before
        else
          readSequence fuel verbose first ((← readGroup fuel verbose (.captured none)) :: before)
      | _ => readSequence fuel verbose first (.char false c.toNat :: before)

/-- What follows `(?`, and the rest of the sequence. -/
def readExtension (fuel : Nat) (verbose first : Bool) (before : List Node) :
    Reading (List Node) := do
  match fuel with
  | 0 => malformed
  | fuel + 1 =>
    match ← takeSome with
    | .escaped _ => malformed
    | .plain 'P' =>
      if ← accept '<' then
        let name ← readGroupName '>'
        let node ← readGroup fuel verbose (.captured (some name))
        readSequence fuel verbose first (node :: before)
      else if ← accept '=' then
        readSequence fuel verbose first ((← readNamedBack) :: before)
      else malformed
    | .plain ':' =>
      readSequence fuel verbose first ((← readGroup fuel verbose (.plain {} {})) :: before)
    | .plain '#' =>
      skipComment
      readSequence fuel verbose first before
    | .plain '=' =>
      readSequence fuel verbose first ((← readLook fuel verbose false false) :: before)
    | .plain '!' =>
      readSequence fuel verbose first ((← readLook fuel verbose false true) :: before)
    | .plain '<' =>
      let node ← match ← takeSome with
        | .plain '=' => readLook fuel verbose true false
        | .plain '!' => readLook fuel verbose true true
        | _ => malformed
      readSequence fuel verbose first (node :: before)
    | .plain '(' =>
      readSequence fuel verbose first ((← readBranch fuel verbose) :: before)
    | .plain '>' =>
      readSequence fuel verbose first ((← readGroup fuel verbose .atomic) :: before)
    | t =>
      match ← readOptions fuel t with
      | none =>
        unless first && before.isEmpty do malformed
        readSequence fuel (← get).options.verbose first before
      | some (added, removed) =>
        let node ← readGroup fuel verbose (.plain added removed)
        readSequence fuel verbose first (node :: before)

/-- A group, after its head. -/
def readGroup (fuel : Nat) (verbose : Bool) (head : GroupHead) : Reading Node := do
  match fuel with
  | 0 => malformed
  | fuel + 1 =>
    match head with
    | .captured name =>
      let index ← openGroup name
      let body ← within 2 (readChoice fuel verbose false)
      expect ')'
      closeGroup index body
      return .group (some index) {} {} body
    | .plain added removed =>
      let body ← within 2
        (readChoice fuel ((verbose || added.verbose) && !removed.verbose) false)
      expect ')'
      return .group none added removed body
    | .atomic =>
      let body ← within 2 (readChoice fuel verbose false)
      expect ')'
      return .atomic body

/-- A look ahead or behind, after its head. -/
def readLook (fuel : Nat) (verbose behind negated : Bool) : Reading Node := do
  match fuel with
  | 0 => malformed
  | fuel + 1 =>
    let outer := (← get).behind
    if behind && outer.isNone then
      let count ← groupCount
      modify fun p => { p with behind := some count }
    let body ← within 2 (readChoice fuel verbose false)
    if behind && outer.isNone then modify fun p => { p with behind := none }
    expect ')'
    return .look behind negated body

/-- A condition on a group with one sequence or two, after its head. -/
def readBranch (fuel : Nat) (verbose : Bool) : Reading Node := do
  match fuel with
  | 0 => malformed
  | fuel + 1 =>
    let group ← readConditionGroup
    let yes ← within 1 (readSequence fuel verbose false [])
    let no ← if ← accept '|' then
        let no ← within 1 (readSequence fuel verbose false [])
        if (← next) = some (.plain '|') then malformed
        pure no
      else pure []
    expect ')'
    return .branch group yes no

end

mutual

/-- Whether each look behind has one width, and nothing is repeated where that is not allowed. -/
def checkNode (groups : Nat → Width) (template : Bool) : Node → Bool
  | .group _ _ _ body | .atomic body => checkAll groups template body
  | .choice branches => checkEach groups template branches
  | .loop _ _ _ body => !template && checkAll groups template body
  | .branch _ yes no => checkAll groups template yes && checkAll groups template no
  | .look behind _ body =>
    let w := width groups body
    (!behind || w.least == w.greatest) && checkAll groups template body
  | _ => true

/-- The same for all pieces of a sequence. -/
def checkAll (groups : Nat → Width) (template : Bool) : List Node → Bool
  | [] => true
  | node :: rest => checkNode groups template node && checkAll groups template rest

/-- The same for all sequences of a choice. -/
def checkEach (groups : Nat → Width) (template : Bool) : List (List Node) → Bool
  | [] => true
  | branch :: rest => checkAll groups template branch && checkEach groups template rest

end

/-- A number of characters that no look behind can go back. -/
def behindLimit : Nat := 2147483648

mutual

/-- Whether no look behind goes back too far. -/
def staysNear (groups : Nat → Width) : Node → Bool
  | .group _ _ _ body | .atomic body | .loop _ _ _ body => allStayNear groups body
  | .choice branches => eachStaysNear groups branches
  | .branch _ yes no => allStayNear groups yes && allStayNear groups no
  | .look behind _ body =>
    (!behind || (width groups body).least < behindLimit) && allStayNear groups body
  | _ => true

/-- The same for all pieces of a sequence. -/
def allStayNear (groups : Nat → Width) : List Node → Bool
  | [] => true
  | node :: rest => staysNear groups node && allStayNear groups rest

/-- The same for all sequences of a choice. -/
def eachStaysNear (groups : Nat → Width) : List (List Node) → Bool
  | [] => true
  | branch :: rest => allStayNear groups branch && eachStaysNear groups rest

end

/-- A pattern with the options that hold for all of it. -/
structure Compiled where
  /-- The sequence to match. -/
  body : List Node
  /-- The options of the whole pattern. -/
  options : Options
  /-- The width of each group. -/
  groups : Array (Option Width)

/-- Reads a pattern text to its end. -/
def readAll (size : Nat) : Reading (List Node) := do
  let p ← get
  if p.rest.isEmpty && p.dangling then malformed
  let body ← readChoice (4 * size + 8) false true
  let p ← get
  if p.options.ascii && p.options.unicode then throw .incompatibleOptions
  unless p.rest.isEmpty do malformed
  unless p.conditions.all fun group => group ≤ p.groups.size do malformed
  return body

/-- Reads a pattern text, and says how far that has come. -/
def readText (s : String) : Except Trouble (List Node) × Progress :=
  let (rest, dangling) := tokens s.toList
  (readAll rest.length).run.run
    { rest, dangling, options := {}, groups := #[], names := [], behind := none,
      conditions := [] }

/-- Reads a pattern text, and checks what has been read. -/
def read (s : String) : Except Trouble Compiled := do
  let (read, p) := readText s
  let body ← read
  unless checkAll (widthOf p.groups) p.options.template body do throw .malformed
  unless allStayNear (widthOf p.groups) body do throw .tooFarBehind
  return { body, options := p.options, groups := p.groups }

end HouseholdAccess.Pattern
