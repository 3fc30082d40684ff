/-! Finding one text inside another. -/
namespace DatasetProposals
namespace Text

def occursIn (part : List Char) : List Char → Bool
  | [] => part.isEmpty
  | c :: cs => part.isPrefixOf (c :: cs) || occursIn part cs

def mentions (s part : String) : Bool := occursIn part.toList s.toList

def before (part : List Char) : List Char → List Char
  | [] => []
  | c :: cs => if !part.isEmpty && part.isPrefixOf (c :: cs) then [] else c :: before part cs

def cutBefore (s part : String) : String := String.ofList (before part.toList s.toList)

end Text
end DatasetProposals
