import TemplateMap.Shell.Variable

/-! Arithmetic in a script: expressions are evaluated while they are read, with words of 64 bits,
and only as far as their values are needed. -/

namespace TemplateMap.Shell

/-- An operator between two numbers. -/
inductive BinaryOperator
  | times
  | over
  | remainder
  | plus
  | minus
  | shiftLeft
  | shiftRight
  | less
  | lessEqual
  | greater
  | greaterEqual
  | equal
  | unequal
  | bitAnd
  | bitXor
  | bitOr
  deriving DecidableEq

/-- A piece of an expression. -/
inductive Term
  | number (n : Int)
  | named (name : Text)
  | binary (o : BinaryOperator)
  /-- An equals sign, with an operator that is applied before. -/
  | assignment (o : Option BinaryOperator)
  | both
  | either
  | negation
  | complement
  | question
  | colon
  | opening
  | closing
  | unknown
  | ending
  deriving DecidableEq

namespace BinaryOperator

/-- How late an operator is applied, the first being 0. -/
def rank : BinaryOperator → Nat
  | .times | .over | .remainder => 0
  | .plus | .minus => 1
  | .shiftLeft | .shiftRight => 2
  | .less | .lessEqual | .greater | .greaterEqual => 3
  | .equal | .unequal => 4
  | .bitAnd => 5
  | .bitXor => 6
  | .bitOr => 7

/-- A rank after that of all operators. -/
def lastRank : Nat := 8

/-- The bits of an integer as those of a natural number. -/
def bits (n : Int) : Nat := (n % 18446744073709551616).toNat

/-- The number of a truth value. -/
def ofBool (b : Bool) : Int := if b then 1 else 0

/-- The value of an operator, division by zero apart. -/
def apply (o : BinaryOperator) (a b : Int) : Int :=
  let value : Int := match o with
    | .times => a * b
    | .over => a.tdiv b
    | .remainder => a.tmod b
    | .plus => a + b
    | .minus => a - b
    | .shiftLeft => a * (Nat.pow 2 (bits b % 64) : Nat)
    | .shiftRight => a >>> (bits b % 64)
    | .less => ofBool (a < b)
    | .lessEqual => ofBool (a ≤ b)
    | .greater => ofBool (b < a)
    | .greaterEqual => ofBool (b ≤ a)
    | .equal => ofBool (a = b)
    | .unequal => ofBool (a ≠ b)
    | .bitAnd => Nat.land (bits a) (bits b)
    | .bitXor => Nat.xor (bits a) (bits b)
    | .bitOr => Nat.lor (bits a) (bits b)
  Integer.wrapped value

end BinaryOperator

/-- An operator that may stand before an equals sign, and the rest of the text after it. -/
def Term.withEquals (o : BinaryOperator) (rest : Text) : Term × Text :=
  match rest with
  | '=' :: rest => (.assignment (some o), rest)
  | rest => (.binary o, rest)

/-- The first piece of an expression that does not begin with a blank, and the rest. -/
def Term.first (t : Text) : Term × Text :=
  match t with
  | [] => (.ending, [])
  | '=' :: '=' :: rest => (.binary .equal, rest)
  | '=' :: rest => (.assignment none, rest)
  | '>' :: '=' :: rest => (.binary .greaterEqual, rest)
  | '>' :: '>' :: rest => withEquals .shiftRight rest
  | '>' :: rest => (.binary .greater, rest)
  | '<' :: '=' :: rest => (.binary .lessEqual, rest)
  | '<' :: '<' :: rest => withEquals .shiftLeft rest
  | '<' :: rest => (.binary .less, rest)
  | '|' :: '|' :: rest => (.either, rest)
  | '|' :: rest => withEquals .bitOr rest
  | '&' :: '&' :: rest => (.both, rest)
  | '&' :: rest => withEquals .bitAnd rest
  | '!' :: '=' :: rest => (.binary .unequal, rest)
  | '!' :: rest => (.negation, rest)
  | '(' :: rest => (.opening, rest)
  | ')' :: rest => (.closing, rest)
  | '*' :: rest => withEquals .times rest
  | '/' :: rest => withEquals .over rest
  | '%' :: rest => withEquals .remainder rest
  | '+' :: rest => withEquals .plus rest
  | '-' :: rest => withEquals .minus rest
  | '^' :: rest => withEquals .bitXor rest
  | '~' :: rest => (.complement, rest)
  | '?' :: rest => (.question, rest)
  | ':' :: rest => (.colon, rest)
  | c :: rest =>
    if c.isDigit then
      match Integer.prefix? t with
      | some p => (.number (Integer.clamped p.value), p.rest)
      | none => (.unknown, rest)
    else if isNameStart c then (.named (t.takeWhile isNameChar), t.dropWhile isNameChar)
    else (.unknown, c :: rest)

/-- Where the evaluation of an expression is. -/
structure Calculation where
  whole : Text
  rest : Text
  /-- The piece that follows what has been evaluated. -/
  last : Term

/-- Steps of an evaluation. -/
abbrev Calculate := StateT Calculation Act

namespace Calculate

/-- Gives up on the expression. -/
def fail {α : Type} (message : String) : Calculate α := do
  let c ← get
  Act.fail ("arithmetic expression: ".toList ++ message.toList ++ ": \"".toList ++ c.whole ++ ['"'])

/-- Takes the next piece. -/
def take : Calculate Term := do
  let c ← get
  let (t, rest) := Term.first (c.rest.dropWhile fun c => c = ' ' || c = '\t' || c = '\n')
  set { c with rest }
  return t

/-- The number that a variable holds. -/
def held (name : Text) : Calculate Int := do
  let m ← getThe Machine
  Act.integer true ((m.value? name).getD [])

/-- The value of an operator. -/
def binary (o : BinaryOperator) (a b : Int) : Calculate Int := do
  if o = .over || o = .remainder then
    if b = 0 then fail "division by zero"
    if b = -1 && a = Integer.least then
      match ← Act.call .self with
      | .number n =>
        let _ ← Act.call (.send n 8)
      | _ => pure ()
  return o.apply a b

/-- Makes the next piece the one that follows. -/
def follow (t : Term) : Calculate Unit := modify fun c => { c with last := t }

mutual

/-- A number, a variable or an expression in parentheses, after its signs: the piece `t` begins it,
and `next` follows that. -/
def primary (fuel : Nat) (t next : Term) (skips : Bool) : Calculate Int :=
  match fuel with
  | 0 => fail "too deep"
  | fuel + 1 => do
    match t with
    | .opening =>
      let value ← assignment fuel next skips
      unless (← get).last = .closing do fail "expecting ')'"
      follow (← take)
      return value
    | .number n =>
      follow next
      return n
    | .named name =>
      follow next
      if skips then return 0 else held name
    | .binary .plus => primary fuel next (← take) skips
    | .binary .minus => return Integer.wrapped (-(← primary fuel next (← take) skips))
    | .negation => return BinaryOperator.ofBool ((← primary fuel next (← take) skips) = 0)
    | .complement => return -(← primary fuel next (← take) skips) - 1
    | _ => fail "expecting primary"

/-- The value of an operator after the first number and of those that follow, as far as they are
applied before the rank. -/
def operations (fuel : Nat) (a : Int) (o : BinaryOperator) (rank : Nat) (skips : Bool) :
    Calculate Int :=
  match fuel with
  | 0 => fail "too deep"
  | fuel + 1 => do
    let t ← take
    let b ← primary fuel t (← take) skips
    let b ← match (← get).last with
      | .binary later =>
        if later.rank < o.rank then operations fuel b later o.rank skips else pure b
      | _ => pure b
    let a ← if skips then pure b else binary o a b
    match (← get).last with
    | .binary later => if later.rank < rank then operations fuel a later rank skips else return a
    | _ => return a

/-- Numbers and the operators between them. -/
def terms (fuel : Nat) (t next : Term) (skips : Bool) : Calculate Int :=
  match fuel with
  | 0 => fail "too deep"
  | fuel + 1 => do
    let a ← primary fuel t next skips
    match (← get).last with
    | .binary o => operations fuel a o BinaryOperator.lastRank skips
    | _ => return a

/-- A conjunction. -/
def conjunction (fuel : Nat) (t next : Term) (skips : Bool) : Calculate Int :=
  match fuel with
  | 0 => fail "too deep"
  | fuel + 1 => do
    let a ← terms fuel t next skips
    if (← get).last = .both then
      let t ← take
      let b ← conjunction fuel t (← take) (skips || a = 0)
      return BinaryOperator.ofBool (a ≠ 0 && b ≠ 0)
    else return a

/-- A disjunction. -/
def disjunction (fuel : Nat) (t next : Term) (skips : Bool) : Calculate Int :=
  match fuel with
  | 0 => fail "too deep"
  | fuel + 1 => do
    let a ← conjunction fuel t next skips
    if (← get).last = .either then
      let t ← take
      let b ← disjunction fuel t (← take) (skips || a ≠ 0)
      return BinaryOperator.ofBool (a ≠ 0 || b ≠ 0)
    else return a

/-- A choice between two expressions. -/
def selection (fuel : Nat) (t next : Term) (skips : Bool) : Calculate Int :=
  match fuel with
  | 0 => fail "too deep"
  | fuel + 1 => do
    let a ← disjunction fuel t next skips
    if (← get).last = .question then
      let b ← assignment fuel (← take) (skips || a = 0)
      unless (← get).last = .colon do fail "expecting ':'"
      let t ← take
      let c ← selection fuel t (← take) (skips || a ≠ 0)
      return if a ≠ 0 then b else c
    else return a

/-- An expression that the piece `t` begins. -/
def assignment (fuel : Nat) (t : Term) (skips : Bool) : Calculate Int :=
  match fuel with
  | 0 => fail "too deep"
  | fuel + 1 => do
    let next ← take
    match t, next with
    | .named name, .assignment o =>
      let value ← assignment fuel (← take) skips
      if skips then return value
      else
        let value ← match o with
          | some o => binary o (← held name) value
          | none => pure value
        Act.assign name (Text.ofInt value)
        return value
    | _, _ => selection fuel t next skips

end

/-- The value of a whole expression. -/
def whole (t : Text) : Calculate Int := do
  let value ← assignment (8 * t.length + 16) (← take) false
  unless (← get).last = .ending do fail "expecting EOF"
  return value

end Calculate

/-- The value of an expression. -/
def Act.calculate (t : Text) : Act Int := do
  return (← (Calculate.whole t).run ⟨t, t, .ending⟩).1

end TemplateMap.Shell
