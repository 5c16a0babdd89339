import Scaffold.Text.Classes
import Scaffold.Regex.Reading
import Scaffold.Regex.Search

/-!
# Number — words, one and many
-/

set_option autoImplicit false

/-!
## Words — names put together from words

A name is cut into words at signs that are neither letters nor numbers and where small letters
meet capital ones. In joined names every word but perhaps the first begins with a capital; in
separated names a sign stands between the words. Only the ASCII letters change their case.
-/

namespace Scaffold.Inflection

/-- A sign that separates words. -/
def isSeparator (c : Char) : Bool :=
  !Text.isAlphanumeric c

/-- The name without separators at its end. -/
def trimmed (name : List Char) : List Char :=
  (name.reverse.dropWhile isSeparator).reverse

/-- The state of the scan that joins words. -/
structure Joining where
  /-- The next letter begins a word. -/
  fresh : Bool
  /-- No word has begun with a capital yet. -/
  first : Bool
  /-- The last letter that did not begin a word. -/
  last : Char := ' '
  /-- A letter or number was met. -/
  begun : Bool := false
  /-- What was written, the last character first. -/
  written : List Char := []

/-- Writes a character of a joined name; `between` stands in front of the words behind the first
one. -/
def Joining.step (between : List Char) (s : Joining) (c : Char) : Joining :=
  if isSeparator c then (if s.begun then { s with fresh := true } else s)
  else if Text.isNumeric c then { s with begun := true, fresh := true, written := c :: s.written }
  else if s.fresh || (Text.isLowercase s.last && Text.isUppercase c) then
    let written := if s.first then s.written else between ++ s.written
    { s with begun := true, fresh := false, first := false, written := c.toUpper :: written }
  else { s with begun := true, last := c, written := c.toLower :: s.written }

/-- The words of a name in a row. -/
def joined (fresh : Bool) (between : List Char) (name : String) : String :=
  let start : Joining := { fresh, first := true }
  String.ofList ((trimmed name.toList).foldl (Joining.step between) start).written.reverse

/-- Words in a row, every word but the first with a capital. -/
def camelCase (name : String) : String := joined false [] name

/-- Words in a row, every word with a capital. -/
def pascalCase (name : String) : String := joined true [] name

/-- Words with hyphens between them, every word with a capital. -/
def trainCase (name : String) : String := joined true ['-'] name

/-- The number of bytes that a character takes. -/
def width (c : Char) : Nat :=
  if c.toNat < 0x80 then 1 else if c.toNat < 0x800 then 2 else if c.toNat < 0x10000 then 3 else 4

/-- A letter or sign that has no other capital of its own among the ASCII letters. -/
def isCapital (c : Char) : Bool :=
  c == c.toUpper

/-- A small letter stands at this place of the name. -/
def isLowerAt (name : Array Char) (index : Nat) : Bool :=
  ((name[index]?).map Text.isLowercase).getD false

/-- Writes the characters of a separated name. `offset` is the place of the next character,
counted in bytes; a capital is the beginning of a word if a small letter stands next to that
place. -/
def separatedFrom (between : Char) (toCase : Char → Char) (name : Array Char) :
    Bool → Nat → List Char → List Char
  | _, _, [] => []
  | first, offset, c :: rest =>
    let after := offset + width c
    if isSeparator c then
      if first then separatedFrom between toCase name true after rest
      else between :: separatedFrom between toCase name true after rest
    else if !first && isCapital c
        && (isLowerAt name (offset + 1) || isLowerAt name (offset - 1)) then
      between :: toCase c :: separatedFrom between toCase name false after rest
    else toCase c :: separatedFrom between toCase name false after rest

/-- The words of a name with a sign between them. -/
def separated (between : Char) (toCase : Char → Char) (name : String) : String :=
  String.ofList
    (separatedFrom between toCase name.toList.toArray true 0 (trimmed name.toList))

/-- Small words with low lines between them. -/
def snakeCase (name : String) : String := separated '_' Char.toLower name

/-- Small words with hyphens between them. -/
def kebabCase (name : String) : String := separated '-' Char.toLower name

/-- Capital words with low lines between them. -/
def screamingSnakeCase (name : String) : String := separated '_' Char.toUpper name

/-- What stands behind the last pair of colons. -/
def lastSegment : List Char → List Char
  | text => go text text
where
  /-- Goes through the text; `from` is what stands behind the last pair of colons so far. -/
  go : List Char → List Char → List Char
  | ':' :: ':' :: rest, _ => go rest rest
  | _ :: rest, segment => go rest segment
  | [], segment => segment

/-- The name of a reference to what a name stands for. -/
def foreignKey (name : String) : String :=
  let snake := snakeCase (String.ofList (lastSegment name.toList))
  if "_id".toList.isSuffixOf snake.toList then snake else snake ++ "_id"

end Scaffold.Inflection

/-!
## Number — plural and singular of nouns

Some nouns have one form only, some have forms of their own; all others follow the first rule
that fits, from the special to the general. A rule keeps its first group and writes an ending
behind it.
-/

namespace Scaffold.Inflection

/-- Nouns with one form. -/
def uncountable : List String := [
  "accommodation", "adulthood", "advertising", "advice", "aggression", "aid", "air", "aircraft",
  "alcohol", "anger", "applause", "arithmetic", "assistance", "athletics", "bacon", "baggage",
  "beef", "biology", "blood", "botany", "bread", "butter", "carbon", "cardboard", "cash", "chalk",
  "chaos", "chess", "crossroads", "countryside", "dancing", "deer", "dignity", "dirt", "dust",
  "economics", "education", "electricity", "engineering", "enjoyment", "envy", "equipment",
  "ethics", "evidence", "evolution", "fame", "fiction", "flour", "flu", "food", "fuel", "fun",
  "furniture", "gallows", "garbage", "garlic", "genetics", "gold", "golf", "gossip", "grammar",
  "gratitude", "grief", "guilt", "gymnastics", "happiness", "hardware", "harm", "hate", "hatred",
  "health", "heat", "help", "homework", "honesty", "honey", "hospitality", "housework", "humour",
  "hunger", "hydrogen", "ice", "importance", "inflation", "information", "innocence", "iron",
  "irony", "jam", "jewelry", "judo", "karate", "knowledge", "lack", "laughter", "lava", "leather",
  "leisure", "lightning", "linguine", "linguini", "linguistics", "literature", "litter",
  "livestock", "logic", "loneliness", "luck", "luggage", "macaroni", "machinery", "magic",
  "management", "mankind", "marble", "mathematics", "mayonnaise", "measles", "methane", "milk",
  "money", "mud", "mumps", "music", "nature", "news", "nitrogen", "nonsense", "nurture",
  "nutrition", "obedience", "obesity", "oxygen", "pasta", "patience", "physics", "poetry",
  "pollution", "poverty", "pride", "psychology", "publicity", "punctuation", "quartz", "racism",
  "relaxation", "reliability", "research", "respect", "revenge", "rice", "rubbish", "rum",
  "safety", "scenery", "seafood", "seaside", "series", "shame", "sheep", "shopping", "sleep",
  "smoke", "smoking", "snow", "soap", "software", "soil", "spaghetti", "species", "steam",
  "stuff", "stupidity", "sunshine", "symmetry", "tennis", "thirst", "thunder", "timber",
  "traffic", "transportation", "trust", "underwear", "unemployment", "unity", "validity", "veal",
  "vegetation", "vegetarianism", "vengeance", "violence", "vitality", "warmth", "wealth",
  "weather", "welfare", "wheat", "wildlife", "wisdom", "yoga", "zinc", "zoology"]

/-- Singular and plural of nouns with forms of their own. -/
def irregularPlurals : List (String × String) := [
  ("ox", "oxen"), ("man", "men"), ("woman", "women"), ("die", "dice"), ("yes", "yeses"),
  ("foot", "feet"), ("eave", "eaves"), ("goose", "geese"), ("tooth", "teeth"),
  ("quiz", "quizzes")]

/-- Plural and singular of nouns with forms of their own. -/
def irregularSingulars : List (String × String) := [
  ("oxen", "ox"), ("boxes", "box"), ("men", "man"), ("women", "woman"), ("dice", "die"),
  ("yeses", "yes"), ("feet", "foot"), ("eaves", "eave"), ("geese", "goose"), ("teeth", "tooth"),
  ("quizzes", "quiz")]

/-- The rules of plurals, from the special to the general. -/
def pluralRules : List (String × String) := [
  ("(\\w*eaux)$", ""),
  ("(\\w*child)(?:ren)?$", "ren"),
  ("(\\w*pe)(?:rson|ople)$", "ople"),
  ("(\\w*(m|l))(?:ice|ouse)$", "ice"),
  ("(\\w*(matr|cod|mur|sil|vert|ind|append))(?:ix|ex)$", "ices"),
  ("(\\w*(x|ch|ss|sh|zz))$", "es"),
  ("(\\w*([^ch][ieo][ln]))ey$", "ies"),
  ("(\\w*([^aeiouy]|qu))y$", "ies"),
  ("(\\w*(ar|l|ea|eo|oa|hoo))f$", "ves"),
  ("(\\w*(kni|wi|li))fe$", "ves"),
  ("(\\w*)sis$", "ses"),
  ("(\\w*(apheli|hyperbat|periheli|asyndet|noumen|phenomen|criteri|organ|prolegomen|hedr|automat))(?:a|on)$", "a"),
  ("(\\w*(agend|addend|millenni|dat|extrem|bacteri|desiderat|strat|candelabr|errat|ov|symposi|curricul|automat|quor))(?:a|um)$", "a"),
  ("(\\w*(her|at|gr))o$", "oes"),
  ("(\\w*(seraph|cherub))(?:im)?$", "im"),
  ("(\\w*(alumn|alg|vertebr))(?:a|ae)$", "ae"),
  ("(\\w*(alumn|syllab|octop|vir|radi|nucle|fung|cact|stimul|termin|bacill|foc|uter|loc|strat))(?:us|i)$", "i"),
  ("(\\w*([^l]ias|[aeiou]las|[emjzr]as|[iu]am))$", ""),
  ("(\\w*(e[mn]u))s?$", "s"),
  ("(\\w*(alias|[^aou]us|tlas|gas|ris))$", "es"),
  ("(\\w*(ax|test))is$", "es"),
  ("(\\w*([^aeiou]ese))$", ""),
  ("(\\w*)s$", "s")]

/-- The rules of singulars, from the special to the general. -/
def singularRules : List (String × String) := [
  ("(\\w*database)s$", ""),
  ("(\\w*quiz)zes$", ""),
  ("(\\w*matr)ices$", "ix"),
  ("(\\w*(vert|ind))ices$", "ex"),
  ("^(ox)en", ""),
  ("(\\w*(alias|status))(es)?$", ""),
  ("(\\w*(octop|vir))(us|i)$", "us"),
  ("^(a)x[ie]s$", "xis"),
  ("(\\w*(cris|test))(is|es)$", "is"),
  ("(\\w*shoe)s$", ""),
  ("(\\w*bus)(es)?$", ""),
  ("(\\w*(m|l))ice$", "ouse"),
  ("(\\w*)(x|ch|ss|sh)es$", "$2"),
  ("(\\w*m)ovies$", "ovie"),
  ("(\\w*s)eries$", "eries"),
  ("(\\w*([^aeiouy]|qu))ies$", "y"),
  ("(\\w*)([lr])ves$", "$\x7b2\x7df"),
  ("(\\w*)(tive)s$", "$2"),
  ("(\\w*)(hive)s$", "$2"),
  ("(\\w*)([^f])ves$", "$\x7b2\x7dfe"),
  ("(^analy)(sis|ses)$", "sis"),
  ("(\\w*(analy|ba|diagno|parenthe|progno|synop|the))(sis|ses)$", "sis"),
  ("(\\w*)([ti])a$", "$\x7b2\x7dum"),
  ("(\\w*)(o)es$", "$2"),
  ("(\\w*n)ews$", "ews"),
  ("(\\w*)(ss)$", "$2"),
  ("(\\w*)s$", "")]

/-- What a rule makes of a noun, if it fits. -/
def applyRule? (noun : String) (rule : String × String) : Option String := do
  let p ← Regex.ofText? rule.1
  let text := noun.toList.toArray
  let m ← Regex.find? p p.program text 0
  let (b, e) ← m.group? 1
  let ending := Regex.partsFrom (rule.2.length + 1) rule.2.toList
  return String.ofList (Regex.between text b e ++ ending.flatMap (Regex.Part.chars p text m))

/-- The form of a noun: its only one, its own one, or that of the first rule that fits. -/
def inflected (own rules : List (String × String)) (noun otherwise : String) : String :=
  if uncountable.contains noun then noun
  else match own.lookup noun with
    | some form => form
    | none => (rules.findSome? (applyRule? noun)).getD otherwise

/-- The plural of a noun. -/
def plural (noun : String) : String :=
  inflected irregularPlurals pluralRules noun (noun ++ "s")

/-- The singular of a noun. -/
def singular (noun : String) : String :=
  inflected irregularSingulars singularRules noun noun

/-- The name of a table of what a name stands for. -/
def tableCase (name : String) : String := plural (snakeCase name)

end Scaffold.Inflection
