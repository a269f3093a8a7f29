namespace LuaBinder.Text

/-- Texts in the order of their code points. -/
def sortTexts (texts : List String) : List String := texts.mergeSort fun a b => !(b < a)

end LuaBinder.Text
