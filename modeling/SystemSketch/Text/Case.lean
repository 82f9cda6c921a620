/-!
# Comparing letters without case

Keywords are compared without case. Only the keywords' own letters matter, and these are ASCII,
so it is enough to know which characters count as an ASCII letter.
-/

namespace SystemSketch.Text

/-- The small ASCII letter that a character counts as when case is ignored. Besides both cases
of the letter these are the long s, the dotted and the dotless i, and the Kelvin sign. -/
def foldCase (c : Char) : Char :=
  if c == 'ſ' then 's'
  else if c == 'İ' || c == 'ı' then 'i'
  else if c == '\u212A' then 'k'
  else c.toLower

end SystemSketch.Text
