import Transducer.Yaml.Layout

/-!
# Anchors and aliases

An alias needs an anchor of its name before it, and no two anchors have the same name.
-/

namespace Transducer.Yaml.Token

/-- The tokens after an anchor whose name is taken: the text cannot be read beyond the node that the
anchor belongs to. -/
def afterRepeated (name : String) : List Token → List Token
  | .broken why :: _ => [.broken why]
  | .tag handle suffix :: rest => .tag handle suffix :: afterRepeated name rest
  | _ => [.broken (.malformed s!"the anchor {name} twice")]

/-- The tokens up to the first name that breaks the rules; `known` holds the names of the anchors
before them. -/
def checkNames (known : List String) : List Token → List Token
  | [] => []
  | .alias name :: rest =>
    if known.contains name then .alias name :: checkNames known rest
    else [.broken (.malformed s!"the alias {name} without an anchor")]
  | .anchor name :: rest =>
    if known.contains name then .anchor name :: afterRepeated name rest
    else .anchor name :: checkNames (name :: known) rest
  | token :: rest => token :: checkNames known rest

end Transducer.Yaml.Token
