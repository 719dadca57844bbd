import AllowanceProxy.Json.Basic
import AllowanceProxy.Number.Shortest
import AllowanceProxy.Text.Quoted

/-! JSON values as messages show them: quoted text, words for the constants, blanks after commas. -/
namespace AllowanceProxy.Json

open Number Text

def literalNames : Binary64.SpecialNames := ⟨"nan", "inf"⟩

mutual

def literal : Json → String
  | .null => "None"
  | .bool true => "True"
  | .bool false => "False"
  | .int n => intText n
  | .float x => x.write literalNames
  | .str s => quoted s
  | .arr [] => "[]"
  | .arr (v :: vs) => "[" ++ literal v ++ itemLiterals vs
  | .obj [] => "\x7b\x7d"
  | .obj ((k, v) :: ms) => "\x7b" ++ quoted k ++ ": " ++ literal v ++ memberLiterals ms

def itemLiterals : List Json → String
  | [] => "]"
  | v :: vs => ", " ++ literal v ++ itemLiterals vs

def memberLiterals : Members → String
  | [] => "\x7d"
  | (k, v) :: ms => ", " ++ quoted k ++ ": " ++ literal v ++ memberLiterals ms

end

end AllowanceProxy.Json
