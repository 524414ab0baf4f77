import TypesetTrace.Text.Basic

/-! Capitals, for comparing with words that have only ASCII letters: all letters whose capitals are
ASCII letters are made large, and other characters stay as they are. -/
namespace TypesetTrace.Text

def capital (c : Char) : Text :=
  match c with
  | 'ß' => ['S', 'S']
  | 'ı' => ['I']
  | 'ſ' => ['S']
  | 'ﬀ' => ['F', 'F']
  | 'ﬁ' => ['F', 'I']
  | 'ﬂ' => ['F', 'L']
  | 'ﬃ' => ['F', 'F', 'I']
  | 'ﬄ' => ['F', 'F', 'L']
  | 'ﬅ' | 'ﬆ' => ['S', 'T']
  | c => [c.toUpper]

def capitals (s : Text) : Text := s.flatMap capital

end TypesetTrace.Text
