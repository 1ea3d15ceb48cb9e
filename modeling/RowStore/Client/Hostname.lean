import RowStore.Client.Domain.Name
import RowStore.Client.Address

namespace RowStore.Client.Hostname

inductive Problem
  | notFourBytes
  | notInGroups
  | notName
  deriving DecidableEq

/-- Four bytes are four numbers between dots, be they small enough or not. -/
def looksLikeBytes (host : List Char) : Bool :=
  let numbers := Text.pieces ['.'] host
  numbers.length == 4 && numbers.all fun digits => digits ≠ [] && digits.all Char.isDigit

def isAscii (host : List Char) : Bool := host.all fun c => c.toNat < 0x80

def isPlain (c : Char) : Bool := c.isAlphanum || c ∈ "-._~!$&'()*+,;=\"`\x7b\x7d%|\\".toList

def coded (c : Char) : List Char :=
  if isPlain c then [c] else '%' :: (Text.hexDigits 2 c.toNat).map Char.toUpper

def sent (host : List Char) : Except Problem (List Char) :=
  if host = [] then .ok []
  else if looksLikeBytes host then
    if Address.isFourBytes host then .ok host else .error .notFourBytes
  else if host.head? = some '[' && host.getLast? = some ']' then
    let address := host.tail.dropLast
    if host.length ≠ 1 && Address.isInGroups address then .ok address else .error .notInGroups
  else if isAscii host then .ok ((host.map Char.toLower).flatMap coded)
  else (Domain.Name.write (host.flatMap Text.smallLetters)).mapError fun _ => .notName

/-- Why a request cannot be sent to a host: its name cannot be read, or the zone of its address has
characters beyond ASCII, of which the first ones stand at some place. -/
inductive Obstacle
  | unreadable (problem : Domain.Problem)
  | beyondAscii (first : Char) (count place : Nat)
  deriving DecidableEq

namespace Obstacle

def title : Obstacle → String
  | unreadable problem => problem.title
  | beyondAscii .. => "UnicodeEncodeError"

def escaped (c : Char) : List Char :=
  if c.toNat < 0x100 then '\\' :: 'x' :: Text.hexDigits 2 c.toNat
  else if c.toNat < 0x10000 then '\\' :: 'u' :: Text.hexDigits 4 c.toNat
  else '\\' :: 'U' :: Text.hexDigits 8 c.toNat

def message : Obstacle → String
  | unreadable problem => problem.message
  | beyondAscii first count place =>
      "'ascii' codec can't encode character" ++
        (if count = 1 then
          " '" ++ String.ofList (escaped first) ++ "' in position " ++ toString place
        else "s in position " ++ toString place ++ "-" ++ toString (place + count - 1)) ++
        ": ordinal not in range(128)"

end Obstacle

/-- A name whose first label stands for another is read when the request is sent. The place of a
character in an address counts the bracket in front. -/
def check (sent : List Char) : Except Obstacle Unit :=
  let (basic, rest) := sent.span fun c => c.toNat < 0x80
  match rest with
  | c :: _ =>
      let count := (rest.takeWhile fun c => 0x80 ≤ c.toNat).length
      .error (.beyondAscii c count (basic.length + 1))
  | [] =>
      if (Text.after? Domain.Label.codeMark sent).isSome then do
        let _ ← (Domain.Name.read sent).mapError .unreadable
      else .ok ()

example : looksLikeBytes "1.2.3.400".toList = true := by decide

example : looksLikeBytes "1.2.3.4.5".toList = false := by decide

end RowStore.Client.Hostname
