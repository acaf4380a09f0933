import Mathlib.Algebra.Ring.Nat
import Coderd.Foundation.Unicode

namespace Coderd.Foundation

/-! ## Regular expressions

The part of the syntax of the crate `regex` that has characters, classes, groups, anchors and greedy
repetitions. Of the ways to match, it takes the first one that backtracking comes to. -/

/-- The decimal digits of all scripts, which `\d` stands for. -/
class DecimalDigits where
  isDecimal : Char → Bool
  isDecimal_of_ascii : ∀ c, c.toNat < 128 → isDecimal c = c.isDigit
  not_isWhiteSpace : ∀ c, isDecimal c = true → isWhiteSpace c = false

inductive ClassItem where
  | range (lo hi : Char)
  | whiteSpace
  | decimal
  deriving DecidableEq

structure CharClass where
  negated : Bool
  items : List ClassItem
  deriving DecidableEq

inductive Regex where
  | empty
  | set (cls : CharClass)
  | startOfText
  | endOfText
  | seq (a b : Regex)
  | opt (a : Regex)
  | star (a : Regex)
  | group (index : ℕ) (a : Regex)
  deriving DecidableEq

namespace Regex

def literal (c : Char) : Regex := .set ⟨false, [.range c c]⟩

def plus (a : Regex) : Regex := .seq a (.star a)

def seqOf (items : List Regex) : Regex := items.foldr .seq .empty

def upTo (a : Regex) (more : ℕ) : Regex := more.repeat (fun r => .opt (.seq a r)) .empty

/-- So many times, and up to so many times more. -/
def between (a : Regex) (n more : ℕ) : Regex := seqOf (List.replicate n a ++ [a.upTo more])

end Regex

/-! ### Matching -/

section Matching

variable [DecimalDigits]

def ClassItem.has : ClassItem → Char → Bool
  | .range lo hi, c => lo ≤ c && c ≤ hi
  | .whiteSpace, c => isWhiteSpace c
  | .decimal, c => DecimalDigits.isDecimal c

def CharClass.has (cls : CharClass) (c : Char) : Bool := cls.negated != cls.items.any (·.has c)

/-- A place in the text, and the groups that were closed before it, the last one first. -/
structure Cursor where
  before : ℕ
  rest : List Char
  groups : List (ℕ × List Char)
  deriving DecidableEq

/-- The group takes what was read since the cursor where it was opened. -/
def Cursor.close (s : Cursor) (index : ℕ) (opened : Cursor) : Cursor :=
  { s with groups := (index, opened.rest.take (s.before - opened.before)) :: s.groups }

section Star

variable {β : Type} (step : (Cursor → Option β) → Cursor → Option β) (k : Cursor → Option β)

/-- As often as possible; an iteration has to read something. -/
def starRun : ℕ → Cursor → Option β
  | 0, s => k s
  | n + 1, s =>
    (step (fun s' => if s'.rest.length < s.rest.length then starRun n s' else none) s).or (k s)

end Star

/-- What `k` makes of the first place after a match from which it succeeds. -/
def Regex.run {β : Type} : Regex → (Cursor → Option β) → Cursor → Option β
  | .empty, k, s => k s
  | .set cls, k, s =>
    match s.rest with
    | [] => none
    | c :: cs => if cls.has c then k { s with before := s.before + 1, rest := cs } else none
  | .startOfText, k, s => if s.before = 0 then k s else none
  | .endOfText, k, s => if s.rest.isEmpty then k s else none
  | .seq a b, k, s => a.run (b.run k) s
  | .opt a, k, s => (a.run k s).or (k s)
  | .star a, k, s => starRun a.run k s.rest.length s
  | .group index a, k, s => a.run (fun s' => k (s'.close index s)) s

/-- The leftmost match from a place on. -/
def Regex.search (r : Regex) : ℕ → List Char → Option Cursor
  | before, [] => r.run some ⟨before, [], []⟩
  | before, c :: cs => (r.run some ⟨before, c :: cs, []⟩).or (r.search (before + 1) cs)

/-- The groups of the first match; `none` where there is none. -/
def Regex.captures (r : Regex) (text : String) : Option (List (ℕ × List Char)) :=
  (r.search 0 text.toList).map Cursor.groups

def Regex.isMatch (r : Regex) (text : String) : Bool := (r.captures text).isSome

end Matching

/-! ### Syntax -/

/-- An open group: its index, if it captures, and what was read in it, the last first. -/
structure RegexFrame where
  index : Option ℕ
  items : List Regex
  deriving DecidableEq

def RegexFrame.regex (frame : RegexFrame) : Regex :=
  let body := Regex.seqOf frame.items.reverse
  match frame.index with
  | some index => .group index body
  | none => body

inductive RegexMode where
  | plain
  /-- After a repetition; a question mark would make it a lazy one. -/
  | repeated
  /-- After a backslash. -/
  | escape
  /-- After an opening parenthesis, one with a question mark, and one with the `P` of a name. -/
  | opened
  | question
  | name (read : List Char)
  /-- In a class; a hyphen may be open. -/
  | cls (cls : CharClass) (hyphen : Bool)
  /-- In braces: the first number, or both. -/
  | lower (n : ℕ)
  | upper (n m : ℕ)
  deriving DecidableEq

structure RegexReader where
  mode : RegexMode
  frames : List RegexFrame
  next : ℕ
  names : List (String × ℕ)
  deriving DecidableEq

namespace RegexReader

def init : RegexReader := ⟨.plain, [⟨none, []⟩], 1, []⟩

def push (r : RegexReader) (item : Regex) : Option RegexReader :=
  match r.frames with
  | frame :: frames =>
    some { r with mode := .plain, frames := { frame with items := item :: frame.items } :: frames }
  | [] => none

/-- A repetition is one of what was read last. -/
def repeatLast (r : RegexReader) (f : Regex → Regex) : Option RegexReader :=
  match r.frames with
  | ⟨index, item :: items⟩ :: frames =>
    some { r with mode := .repeated, frames := ⟨index, f item :: items⟩ :: frames }
  | _ => none

def openGroup (r : RegexReader) (captures : Bool) (name : Option String) : RegexReader :=
  { mode := .plain
    frames := ⟨if captures then some r.next else none, []⟩ :: r.frames
    next := if captures then r.next + 1 else r.next
    names := (name.map fun n => (n, r.next)).toList ++ r.names }

def closeGroup (r : RegexReader) : Option RegexReader :=
  match r.frames with
  | frame :: parent :: frames => { r with frames := parent :: frames }.push frame.regex
  | _ => none

def plainStep (r : RegexReader) (c : Char) : Option RegexReader :=
  match c with
  | '\\' => some { r with mode := .escape }
  | '^' => r.push .startOfText
  | '$' => r.push .endOfText
  | '*' => r.repeatLast .star
  | '+' => r.repeatLast .plus
  | '?' => r.repeatLast .opt
  | '(' => some { r with mode := .opened }
  | ')' => r.closeGroup
  | '[' => some { r with mode := .cls ⟨false, []⟩ false }
  | '{' => some { r with mode := .lower 0 }
  | '.' | '|' | ']' | '}' => none
  | c => r.push (.literal c)

def itemStart : ClassItem → Char
  | .range lo _ => lo
  | .whiteSpace | .decimal => ' '

def classStep (r : RegexReader) (cls : CharClass) (hyphen : Bool) (c : Char) :
    Option RegexReader :=
  match c, cls.items with
  | '\\', _ | '[', _ | '&', _ | '~', _ => none
  | '^', [] => if cls.negated then none else some { r with mode := .cls ⟨true, []⟩ false }
  | ']', item :: items =>
    r.push (.set ⟨cls.negated, if hyphen then .range '-' '-' :: item :: items else item :: items⟩)
  | '-', _ :: _ => if hyphen then none else some { r with mode := .cls cls true }
  | c, item :: items =>
    if hyphen then
      if item = .range (itemStart item) (itemStart item) ∧ itemStart item ≤ c then
        some { r with mode := .cls ⟨cls.negated, .range (itemStart item) c :: items⟩ false }
      else none
    else some { r with mode := .cls ⟨cls.negated, .range c c :: item :: items⟩ false }
  | c, [] => some { r with mode := .cls ⟨cls.negated, [.range c c]⟩ false }

def digitValue (c : Char) : ℕ := c.toNat - '0'.toNat

/-- Syntax that is not part of the model is not read. -/
def step (r : RegexReader) (c : Char) : Option RegexReader :=
  match r.mode with
  | .plain => r.plainStep c
  | .repeated => if c = '?' then none else r.plainStep c
  | .escape =>
    match c with
    | 's' => r.push (.set ⟨false, [.whiteSpace]⟩)
    | 'd' => r.push (.set ⟨false, [.decimal]⟩)
    | c => if c.isAlphanum then none else r.push (.literal c)
  | .opened =>
    if c = '?' then some { r with mode := .question } else (r.openGroup true none).plainStep c
  | .question =>
    match c with
    | ':' => some (r.openGroup false none)
    | 'P' => some { r with mode := .name [] }
    | _ => none
  | .name read =>
    -- the name comes in angle brackets
    if c = '>' then some (r.openGroup true (some (String.ofList (read.reverse.drop 1))))
    else some { r with mode := .name (c :: read) }
  | .cls cls hyphen => r.classStep cls hyphen c
  | .lower n =>
    if c = ',' then some { r with mode := .upper n 0 }
    else if c.isDigit then some { r with mode := .lower (10 * n + digitValue c) }
    else none
  | .upper n m =>
    if c = '}' then r.repeatLast fun a => .between a n (m - n)
    else if c.isDigit then some { r with mode := .upper n (10 * m + digitValue c) }
    else none

def finish (r : RegexReader) : Option Regex :=
  match r.mode, r.frames with
  | .plain, [frame] => some frame.regex
  | .repeated, [frame] => some frame.regex
  | _, _ => none

end RegexReader

def Regex.read (pattern : String) : Option RegexReader :=
  pattern.toList.foldlM RegexReader.step RegexReader.init

/-- `Regex::new`. -/
def Regex.parse (pattern : String) : Option Regex := (Regex.read pattern).bind RegexReader.finish

/-- The names of the groups, with their indices. -/
def Regex.names (pattern : String) : List (String × ℕ) :=
  ((Regex.read pattern).map RegexReader.names).getD []

end Coderd.Foundation
