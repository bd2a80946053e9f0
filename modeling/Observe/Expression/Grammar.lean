import Observe.Expression

namespace Observe

mutual

/-- The tokens that an element can be written with. -/
inductive Element.Derives : List TokenKind → Element → Prop where
  | trait (name : String) : Element.Derives [.name name] (.trait name)
  | metadata (name : String) : Element.Derives [.plus, .name name] (.metadata name)
  | items : Element.Derives [.items] .items
  | group {kinds : List TokenKind} {branches : Expression} :
      Expression.Derives kinds branches →
        Element.Derives (.openBracket :: (kinds ++ [.closeBracket])) (.group branches)

/-- A step notifies if a dot follows it. The last one never does. -/
inductive Series.Derives : List TokenKind → Series → Prop where
  | last {kinds : List TokenKind} {element : Element} :
      Element.Derives kinds element → Series.Derives kinds [⟨element, false⟩]
  | dot {kinds rest : List TokenKind} {element : Element} {series : Series} :
      Element.Derives kinds element → Series.Derives rest series →
        Series.Derives (kinds ++ .dot :: rest) (⟨element, true⟩ :: series)
  | colon {kinds rest : List TokenKind} {element : Element} {series : Series} :
      Element.Derives kinds element → Series.Derives rest series →
        Series.Derives (kinds ++ .colon :: rest) (⟨element, false⟩ :: series)

inductive Expression.Derives : List TokenKind → Expression → Prop where
  | one {kinds : List TokenKind} {series : Series} :
      Series.Derives kinds series → Expression.Derives kinds [series]
  | more {kinds rest : List TokenKind} {series : Series} {branches : Expression} :
      Series.Derives kinds series → Expression.Derives rest branches →
        Expression.Derives (kinds ++ .comma :: rest) (series :: branches)

end

end Observe
