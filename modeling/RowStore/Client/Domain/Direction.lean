import RowStore.Client.Domain.Character
import RowStore.Client.Domain.Problem
import RowStore.Client.Text.Mark

namespace RowStore.Client.Domain

/-- The digits of two kinds, which are written from the left even among letters that are not. -/
inductive Direction
  | fromLeft
  | fromRight
  | european
  | arabic
  | mark
  | neutral
  deriving DecidableEq

namespace Direction

open RowStore.Text Client.Text

def letterMarks : List Nat := [0xCBF, 0xCC6, 0x11A07, 0x11A08, 0x11C3F]

def europeanRanges : List (Nat × Nat) := [(0x30, 0x39), (0x6F0, 0x6F9)]

def arabicRanges : List (Nat × Nat) := [(0x660, 0x669), (0x10D30, 0x10D39)]

def rightRanges : List (Nat × Nat) :=
  [(0x5D0, 0x8FF), (0xFB1D, 0xFEFF), (0x10800, 0x10FFF), (0x1E800, 0x1EFFF)]

def neutralRanges : List (Nat × Nat) :=
  [(0x2D, 0x2D), (0xB7, 0xB7), (0x2B9, 0x2BA), (0x2C6, 0x2CF), (0x2EC, 0x2EC), (0x375, 0x375),
   (0x200C, 0x200D), (0x2E2F, 0x2E2F), (0x30FB, 0x30FB), (0xA67F, 0xA67F), (0xA717, 0xA71F),
   (0xA788, 0xA788)]

def ofPoint (point : Nat) : Direction :=
  if isSpacelessMark point && point ∉ letterMarks then mark
  else if within europeanRanges point then european
  else if within arabicRanges point then arabic
  else if within rightRanges point then fromRight
  else if within neutralRanges point then neutral
  else fromLeft

end Direction

namespace Label

open Direction

def isDirected (label : Label) : Bool :=
  label.any fun point => ofPoint point = fromRight || ofPoint point = arabic

def checkFromRight (digits : Option Direction) (position : Nat) : Label → Except Problem Unit
  | [] => .ok ()
  | point :: label =>
      match ofPoint point with
      | .fromLeft => .error (.rightward position)
      | .european =>
          if digits = some arabic then .error .mixedDigits
          else checkFromRight (some european) (position + 1) label
      | .arabic =>
          if digits = some european then .error .mixedDigits
          else checkFromRight (some arabic) (position + 1) label
      | _ => checkFromRight digits (position + 1) label

def checkFromLeft (position : Nat) : Label → Except Problem Unit
  | [] => .ok ()
  | point :: label =>
      match ofPoint point with
      | .fromRight | .arabic => .error (.leftward position)
      | _ => checkFromLeft (position + 1) label

def checkEnd (label : Label) (directions : List Direction) : Except Problem Unit :=
  match (label.reverse.map ofPoint).find? (· ≠ mark) with
  | some last => if last ∈ directions then .ok () else .error .undirectedEnd
  | none => .error .undirectedEnd

/-- The direction of a younger character is not known, be the label directed or not. -/
def checkDirections (label : Label) : Except Problem Unit := do
  if let some place := label.findIdx? isYoung then throw (.directionUnknown label (place + 1))
  if label.isDirected then
    match label.head?.map ofPoint with
    | some .fromRight =>
        label.checkFromRight none 1
        label.checkEnd [fromRight, european, arabic]
    | some .fromLeft =>
        label.checkFromLeft 1
        label.checkEnd [fromLeft, european]
    | _ => throw (.undirected label)

end Label

end RowStore.Client.Domain
