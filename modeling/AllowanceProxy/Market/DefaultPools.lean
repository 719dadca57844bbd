import AllowanceProxy.Market.Answer

/-! Networks, their denominations and the pools registered on each from the start. -/
namespace AllowanceProxy

namespace Denom

def axlUsdc : String := "ibc/EAC38D55372F38F1AFD68DF7FE9EF762DCF69F26520643CF3F9D292A738D8034"

def juno : String := "ujuno"

def loop : String := "uloop"

def junox : String := "ujunox"

def testTokens : String := "testtokens"

end Denom

def mainNetwork : String := "juno-1"

def testNetwork : String := "uni-3"

def localNetwork : String := "local"

namespace Registry

def mainPools : Registry := [
  ⟨"juno1utkr0ep06rkxgsesq6uryug93daklyd6wneesmtvxjkz0xjlte9qdj2s8q",
    Denom.axlUsdc, Denom.loop, .simulation⟩,
  ⟨"juno1qc8mrs3hmxm0genzrd92akja5r0v7mfm6uuwhktvzphhz9ygkp8ssl4q07",
    Denom.juno, Denom.loop, .simulation⟩,
  ⟨"juno1ctsmp54v79x7ea970zejlyws50cj9pkrmw49x46085fn80znjmpqz2n642",
    Denom.juno, Denom.axlUsdc, .priceRatio⟩]

def testContract : String := "juno14hy9h05scz48n4l5qkq5x8hppkr4u9xez88nn30fu7l32pg3y38q3r3mgx"

def testPools : Registry := [
  ⟨testContract, Denom.axlUsdc, Denom.loop, .simulation⟩,
  ⟨testContract, Denom.junox, Denom.loop, .simulation⟩,
  ⟨testContract, Denom.junox, Denom.axlUsdc, .priceRatio⟩]

def localPools : Registry := [
  ⟨"local_usdc_to_uloop_fake", Denom.axlUsdc, Denom.loop, .simulation⟩,
  ⟨"local_ujuno_to_uloop_fake", Denom.testTokens, Denom.loop, .simulation⟩,
  ⟨"local_ujuno_to_usdc_fake", Denom.testTokens, Denom.axlUsdc, .priceRatio⟩]

def ofNetwork? (network : String) : Option Registry :=
  if network = mainNetwork then some mainPools
  else if network = testNetwork then some testPools
  else if network = localNetwork then some localPools
  else none

/-- The network that a value names, and its pools. Lists and objects are no names at all. -/
def ofNetwork (network : Json) : Except Error (String × Registry) :=
  match network with
  | .arr _ | .obj _ => .error (.noName network.kindName)
  | .str (.plain name) =>
    match ofNetwork? name with
    | some pools => .ok (name, pools)
    | none => .error (.unsupportedNetwork (Text.quoted name))
  | _ => .error (.unsupportedNetwork network.literal)

end Registry

end AllowanceProxy
