import Tollgate.Number.Digits
import Tollgate.Window.Check

/-!
# Windows on a remote store

The calls of a check as commands to a store that keeps sorted sets by key, and what its replies to
them mean. Recording a hit is one transaction; its count is the reply to the second command in it.
A reply of another shape than the call expects is a failure of the store.
-/

namespace Tollgate

/-- A reply of a remote store. -/
inductive WireReply where
  | status (s : String)
  | error (s : String)
  | integer (n : Int)
  | text (s : String)
  | missing
  | list (items : List WireReply)
deriving Repr

/-- A command: its name and its arguments. -/
abbrev Command := List String

/-- A remote store, by what it replies to the command of a name. -/
abbrev RemoteStore := String → WireReply

/-! ### Reading replies -/

namespace WireReply

/-- A line up to carriage return and line feed. -/
def line? : List Char → Option (List Char × List Char)
  | '\r' :: '\n' :: rest => some ([], rest)
  | c :: rest => (line? rest).map fun (l, behind) => (c :: l, behind)
  | [] => none

/-- An integer, with a sign or without. -/
def integer? : List Char → Option Int
  | '-' :: digits =>
    if digits ≠ [] ∧ digits.all Char.isDigit then some (-(decimalValue digits : Int)) else none
  | digits =>
    if digits ≠ [] ∧ digits.all Char.isDigit then some (decimalValue digits : Int) else none

/-- As many replies as are announced. -/
def many? (item : List Char → Option (WireReply × List Char)) :
    Nat → List Char → Option (List WireReply × List Char)
  | 0, s => some ([], s)
  | n + 1, s => do
    let (r, rest) ← item s
    let (rs, rest) ← many? item n rest
    some (r :: rs, rest)

/-- A reply in which lists are nested less than `depth` deep. -/
def read? : Nat → List Char → Option (WireReply × List Char)
  | 0, _ => none
  | depth + 1, s =>
    match s with
    | [] => none
    | kind :: rest => do
      let (l, rest) ← line? rest
      match kind with
      | '+' => some (.status (String.ofList l), rest)
      | '-' => some (.error (String.ofList l), rest)
      | ':' => (integer? l).map fun n => (.integer n, rest)
      | '$' =>
        match ← integer? l with
        | .ofNat n =>
          match rest.drop n with
          | '\r' :: '\n' :: behind => some (.text (String.ofList (rest.take n)), behind)
          | _ => none
        | .negSucc _ => some (.missing, rest)
      | '*' =>
        match ← integer? l with
        | .ofNat n => (many? (read? depth) n rest).map fun (rs, rest) => (.list rs, rest)
        | .negSucc _ => some (.missing, rest)
      | _ => none

/-- The depth to which replies are nested at most. -/
def maxDepth : Nat := 100

/-- The reply that a text is; what cannot be read is an error. -/
def ofText (s : String) : WireReply :=
  match read? maxDepth s.toList with
  | some (r, _) => r
  | none => .error "invalid reply"

/-- The text of a reply that is one. -/
def text? : WireReply → Option String
  | status s => some s
  | text s => some s
  | integer n => some (toString n)
  | _ => none

/-- The number a reply stands for. -/
def integerValue? : WireReply → Option Int
  | integer n => some n
  | status s => integer? s.toList
  | text s => integer? s.toList
  | _ => none

/-- A decimal number, with a fraction and an exponent or without. -/
def decimal? (s : List Char) : Option Double :=
  let (negative, s) := match s with
    | '-' :: rest => (true, rest)
    | '+' :: rest => (false, rest)
    | s => (false, s)
  let text := (String.ofList s).toLower
  if text = "inf" ∨ text = "infinity" then some (.infinite negative)
  else if text = "nan" then some .notANumber
  else
    let mantissa := s.takeWhile fun c => c != 'e' && c != 'E'
    let whole := mantissa.takeWhile (· != '.')
    let fraction := (mantissa.drop whole.length).drop 1
    let exponent := (s.drop mantissa.length).drop 1
    let digits := whole ++ fraction
    if digits = [] ∨ ¬ digits.all Char.isDigit then none
    else if mantissa.length = s.length then
      some (.ofDigits negative digits (-(fraction.length : Int)))
    else
      let exponent := match exponent with
        | '+' :: rest => rest
        | rest => rest
      (integer? exponent).map fun e => .ofDigits negative digits (e - fraction.length)

/-- The double a reply stands for. -/
def double? : WireReply → Option Double
  | integer n => decimal? (toString n).toList
  | status s => decimal? s.toList
  | text s => decimal? s.toList
  | _ => none

end WireReply

/-! ### Calls -/

namespace StoreCall

/-- The commands of a call. -/
def commands : StoreCall → List Command
  | .recordHit key member now windowStart ttl =>
    [["MULTI"], ["ZREMRANGEBYSCORE", key, "-inf", toString windowStart], ["ZCARD", key],
      ["ZADD", key, toString now, member],
      ["EXPIRE", key, toString (Saturating.ofUnsigned ttl)], ["EXEC"]]
  | .removeMember key member => [["ZREM", key, member]]
  | .oldestScore key => [["ZRANGE", key, "0", "0", "WITHSCORES"]]

end StoreCall

namespace RemoteStore

/-- The store answers, and may be used. -/
def answers (store : RemoteStore) : Bool :=
  (store "PING").text?.isSome

/-- The commands sent to find out. -/
def greeting : List Command := [["PING"]]

/-- A reply that is no error. -/
def isGood : WireReply → Bool
  | .error _ => false
  | _ => true

/-- The count of a recorded hit. -/
def count? (store : RemoteStore) : Option Nat :=
  if ["MULTI", "ZREMRANGEBYSCORE", "ZCARD", "ZADD", "EXPIRE"].all fun c => isGood (store c) then
    match store "EXEC" with
    | .list [_, count, _, _] =>
      match count.integerValue? with
      | some (.ofNat n) => some n
      | _ => none
    | _ => none
  else none

/-- The hit was removed, or was not there. -/
def removes (store : RemoteStore) : Bool :=
  (store "ZREM").integerValue?.isSome

/-- The score of the oldest hit; nothing inside where the key holds none. -/
def oldest? (store : RemoteStore) : Option (Option Int) :=
  match store "ZRANGE" with
  | .list [] => some none
  | .list (_ :: score :: _) => score.double?.map fun x => some x.truncate64
  | .missing => some none
  | _ => none

/-- What follows from the reply to the call of a stage; nothing where the store failed. -/
def advance? (store : RemoteStore) (c : Check) : Stage → Option Progress
  | .counting => store.count?.map c.counted
  | .undoing count => if store.removes then some (.waiting (.dating count)) else none
  | .dating count => store.oldest?.map fun oldest => .decided (c.refusal count oldest)

end RemoteStore

end Tollgate
