import AllowanceProxy.Text.Composition
import AllowanceProxy.Text.Direction
import AllowanceProxy.Text.HostLetter
import AllowanceProxy.Text.Joining
import AllowanceProxy.Text.Punycode
import AllowanceProxy.Text.Quoted
import AllowanceProxy.Text.Script

/-!
The rules for a label of a host, which is a list of code points: where hyphens, marks and signs of
particular scripts may stand in it, and which directions may meet in it. The first rule that is
broken is the one that is told.
-/
namespace AllowanceProxy.Host

open Text

/-- Places in a label are counted from one. -/
inductive LabelFault where
  | noContent
  | hyphenAtEnd
  | unreadable
  | notCanonical
  | empty
  | notComposed
  | innerHyphens
  | outerHyphen
  | startsWithMark
  | besideUnknown (point place : Nat) (label : List Nat)
  | joiner (point place : Nat) (label : List Nat)
  | outOfContext (point place : Nat) (label : List Nat)
  | notAllowed (point place : Nat) (label : List Nat)
  | undirected (place : Nat) (label : List Nat)
  | undirectedStart (label : List Nat)
  | inLeftToRight (place : Nat)
  | inRightToLeft (place : Nat)
  | mixedNumbers
  | directionAtEnd
  deriving DecidableEq

/-- The number of a code point, in four digits at least. -/
def pointName (n : Nat) : String :=
  let width := if n < 0x10000 then 4 else if n < 0x100000 then 5 else 6
  String.ofList ('U' :: '+' :: (hexDigits width n).map Char.toUpper)

def shownLabel (label : List Nat) : String := quoted (.ofSymbols (label.map Symbol.ofNat))

def LabelFault.message : LabelFault → String
  | .noContent => "Malformed A-label, no Punycode eligible content found"
  | .hyphenAtEnd => "A-label must not end with a hyphen"
  | .unreadable => "Invalid A-label"
  | .notCanonical => "A-label is not the canonical Punycode encoding of its U-label"
  | .empty => "Empty Label"
  | .notComposed => "Label must be in Normalization Form C"
  | .innerHyphens => "Label has disallowed hyphens in 3rd and 4th position"
  | .outerHyphen => "Label must not start or end with a hyphen"
  | .startsWithMark => "Label begins with an illegal combining character"
  | .besideUnknown n i label =>
    "Unknown codepoint adjacent to joiner " ++ pointName n ++ " at position " ++ toString i ++
      " in " ++ shownLabel label
  | .joiner n i label =>
    "Joiner " ++ pointName n ++ " not allowed at position " ++ toString i ++ " in " ++
      shownLabel label
  | .outOfContext n i label =>
    "Codepoint " ++ pointName n ++ " not allowed at position " ++ toString i ++ " in " ++
      shownLabel label
  | .notAllowed n i label =>
    "Codepoint " ++ pointName n ++ " at position " ++ toString i ++ " of " ++ shownLabel label ++
      " not allowed"
  | .undirected i label =>
    "Unknown directionality in label " ++ shownLabel label ++ " at position " ++ toString i
  | .undirectedStart label =>
    "First codepoint in label " ++ shownLabel label ++ " must be directionality L, R or AL"
  | .inLeftToRight i =>
    "Invalid direction for codepoint at position " ++ toString i ++ " in a left-to-right label"
  | .inRightToLeft i =>
    "Invalid direction for codepoint at position " ++ toString i ++ " in a right-to-left label"
  | .mixedNumbers => "Can not mix numeral types in a right-to-left label"
  | .directionAtEnd => "Label ends with illegal codepoint directionality"

def hyphen : Nat := '-'.toNat

/-- Whether letters stand directly before and behind. -/
def isBetween (letter : Nat) (before after : List Nat) : Bool :=
  before.head? = some letter && after.head? = some letter

def isArabicDigit (n : Nat) : Bool := 0x660 ≤ n && n ≤ 0x669

def isExtendedArabicDigit (n : Nat) : Bool := 0x6f0 ≤ n && n ≤ 0x6f9

/-- Whether a sign fits between what stands before it, last one first, and what follows; none if
it is no sign of this kind. -/
def fits? (before : List Nat) (n : Nat) (after : List Nat) : Option Bool :=
  if n = 0xb7 then some (isBetween 'l'.toNat before after)
  else if n = 0x375 then some ((after.head?.map isGreek).getD false)
  else if n = 0x5f3 ∨ n = 0x5f4 then some ((before.head?.map isHebrew).getD false)
  else if n = 0x30fb then some ((before ++ after).any isJapanese)
  else if isArabicDigit n then some (!(before ++ after).any isExtendedArabicDigit)
  else if isExtendedArabicDigit n then some (!(before ++ after).any isArabicDigit)
  else none

/-- Whether a joiner, or a sign against joining, has an effect where it stands. -/
def joins? (before : List Nat) (n : Nat) (after : List Nat) : Option Bool :=
  if n = 0x200c then some (followsVirama before || separates before after)
  else if n = 0x200d then some (followsVirama before)
  else none

/-- Letters of which no direction is known have no names either, nor have those of Tangut. -/
def isNameless (n : Nat) : Bool := Direction.of n = .unknown || isTangut n

/-- What is wrong with a code point in its label. -/
def pointFault? (before : List Nat) (n : Nat) (after : List Nat) : Option LabelFault :=
  let place := before.length + 1
  let label := before.reverse ++ n :: after
  if isHostLetter n then none
  else
    match joins? before n after, fits? before n after with
    | some joined, _ =>
      if before.head?.any isNameless then some (.besideUnknown n place label)
      else if joined then none
      else some (.joiner n place label)
    | none, some true => none
    | none, some false => some (.outOfContext n place label)
    | none, none => some (.notAllowed n place label)

/-- The first fault among code points, behind those that stand here last one first. -/
def pointsFault? : (before : List Nat) → List Nat → Option LabelFault
  | _, [] => none
  | before, n :: after => (pointFault? before n after).or (pointsFault? (n :: before) after)

/-- What is wrong with a direction in a label of letters from right to left. -/
def rightToLeftFault? (before : List Direction) (d : Direction) : Option LabelFault :=
  match d with
  | .leftToRight | .unknown => some (.inRightToLeft (before.length + 1))
  | .arabicNumber => if before.contains .number then some .mixedNumbers else none
  | .number => if before.contains .arabicNumber then some .mixedNumbers else none
  | _ => none

/-- Letters and numbers of either direction are at odds with the other one. -/
def leftToRightFault? (before : List Direction) (d : Direction) : Option LabelFault :=
  match d with
  | .leftToRight | .number | .neutral | .nonspacing => none
  | _ => some (.inLeftToRight (before.length + 1))

def directionsFault? (fault? : List Direction → Direction → Option LabelFault) :
    (before : List Direction) → List Direction → Option LabelFault
  | _, [] => none
  | before, d :: ds => (fault? before d).or (directionsFault? fault? (d :: before) ds)

/-- Whether the direction before the marks at the end is one of some. -/
def endsIn (ends : List Direction) (ds : List Direction) : Bool :=
  match ds.reverse.dropWhile (· = .nonspacing) with
  | d :: _ => ends.contains d
  | [] => false

/-- Directions matter where something is written from right to left. -/
def directionFault? (label : List Nat) : Option LabelFault :=
  let ds := label.map Direction.of
  match ds.idxOf? .unknown with
  | some i => some (.undirected (i + 1) label)
  | none =>
    if ¬ (ds.contains .rightToLeft ∨ ds.contains .arabicNumber) then none
    else
      match ds.head? with
      | some .rightToLeft =>
        (directionsFault? rightToLeftFault? [] ds).or
          (if endsIn [.rightToLeft, .arabicNumber, .number] ds then none
          else some .directionAtEnd)
      | some .leftToRight =>
        (directionsFault? leftToRightFault? [] ds).or
          (if endsIn [.leftToRight, .number] ds then none else some .directionAtEnd)
      | _ => some (.undirectedStart label)

def plainLabelFault? (label : List Nat) : Option LabelFault :=
  if label = [] then some .empty
  else if ¬ isComposed label then some .notComposed
  else if (label.drop 2).take 2 = [hyphen, hyphen] then some .innerHyphens
  else if label.head? = some hyphen ∨ label.getLast? = some hyphen then some .outerHyphen
  else if (label.head?.map isMark).getD false then some .startsWithMark
  else (pointsFault? [] label).or (directionFault? label)

def codedMark : List Char := ['x', 'n', '-', '-']

/-- What is wrong with a label in ASCII, which may be the coded form of another. A label has one
coded form, and no other text is read as that label. -/
def labelFault? (label : List Char) : Option LabelFault :=
  if label.take codedMark.length = codedMark then
    let coded := label.drop codedMark.length
    if coded = [] then some .noContent
    else if coded.getLast? = some '-' then some .hyphenAtEnd
    else
      match Punycode.decode? coded with
      | some points =>
        if Punycode.encode points = coded then plainLabelFault? points else some .notCanonical
      | none => some .unreadable
  else plainLabelFault? (label.map Char.toNat)

end AllowanceProxy.Host
