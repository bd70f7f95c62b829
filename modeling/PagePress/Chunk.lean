import PagePress.Text.Basic

/-!
# Chunks of output

A run writes its output as a list of chunks.  At the end each chunk is tidied for itself: a chunk of
blanks becomes its first character, and any other keeps of the blanks it starts with only the last
and of those it ends with only the first.  The page is all chunks, joined.
-/

set_option autoImplicit false

namespace PagePress.Chunk

/-- The blanks that a text starts with. -/
def lead (t : Text) : Text := t.takeWhile isBlank

/-- The blanks that a text ends with. -/
def trail (t : Text) : Text := (t.reverse.takeWhile isBlank).reverse

/-- A chunk with at most one blank at each end. -/
def tidy (c : Text) : Text :=
  if Text.allBlank c then c.take 1
  else (lead c).getLast?.toList ++ Text.strip c ++ (trail c).head?.toList

/-- The page that chunks make. -/
def page (chunks : List Text) : Text := chunks.flatMap tidy

end PagePress.Chunk
