import LoadScenario.Text.Letters

/-!
# Checking the syntax of patterns

A field filter in a log directive may compare a field with a pattern, which is
compiled to a deterministic automaton. Compiling fails for a pattern that is
not well formed, and for a well-formed one that asks for a Unicode word
boundary, which such an automaton cannot decide. `Pattern.check` tells the
three cases apart by reading the pattern's syntax, without building anything.

The syntax read:

* groups `( … )`, `(?flags)`, `(?flags: … )`, `(?P<name> … )` and
  `(?<name> … )`, names unique; look-around groups are not supported. The
  flags are `i m s U u R x`, each at most once, with at most one `-` before
  the ones turned off, and not last;
* bracketed classes `[ … ]`, possibly negated, nested, with ranges `a-z` whose
  ends are characters in order, the classes `[:name:]`, and the operators
  `&&`, `--` and `~~`; a `]` or `-` first in a class stands for itself;
* the repetitions `?`, `*`, `+` and `{m}`, `{m,}`, `{m,n}` with `m ≤ n` below
  `2^32`, each after something to repeat, optionally followed by `?`;
* escapes: the meta characters and every other ASCII mark that is not a
  letter or digit, `\a \f \t \n \r \v`, code points `\x41`, `\x{…}`, `\u0041`
  and `\U00000041`, the classes `\d \s \w` and their negations, the Unicode
  classes `\pL`, `\p{Greek}` and `\p{sc=Greek}` with loosely matched names,
  the anchors `\A \z` and the word boundaries `\b \B \< \>` and `\b{start}`,
  `\b{end}`, `\b{start-half}`, `\b{end-half}`; numbered escapes are
  back-references, which are not supported;
* under the flag `x`, blanks and `#` comments between items are skipped;
* with the flag `u` off, the pattern matches bytes, and may not match a byte
  that is not text: `.`, negated classes, `\D \S \W`, Unicode classes and
  escapes of bytes from `\x80` up are refused; its word boundaries are ASCII
  ones, which an automaton can decide.

Each reading loop takes a fuel argument no smaller than the length of what it
reads, since every round consumes at least one character.
-/

namespace LoadScenario.Text.Pattern

/-- What checking a pattern found. -/
inductive Verdict where
  /-- A well-formed pattern that an automaton can decide. -/
  | accepted
  /-- A pattern that is not well formed. -/
  | malformed
  /-- A well-formed pattern with a Unicode word boundary. -/
  | wordBoundary
  deriving DecidableEq, Repr

/-- Skips blanks and `#` comments; `inComment` says whether a comment is open. -/
def skipBlanksFrom (inComment : Bool) : List Char → List Char
  | [] => []
  | c :: cs =>
    if inComment then skipBlanksFrom (c != '\n') cs
    else if isWhiteSpace c then skipBlanksFrom false cs
    else if c == '#' then skipBlanksFrom true cs
    else c :: cs

/-- Skips blanks and comments under the flag `x`, and nothing otherwise. -/
def skipBlanks (verbose : Bool) (cs : List Char) : List Char :=
  if verbose then skipBlanksFrom false cs else cs

/-- The next character after blanks, as a class sees it when deciding whether
a `-` makes a range: under `x`, blanks and one `#` are passed over, and if
nothing else follows, the character right after is taken. -/
def peekPastBlanks (verbose : Bool) (cs : List Char) : Option Char :=
  if verbose then (go false cs).orElse fun _ => cs.head? else cs.head?
where
  /-- The first character that is neither blank nor the first `#`. -/
  go (inComment : Bool) : List Char → Option Char
    | [] => none
    | c :: more =>
      if isWhiteSpace c then go inComment more
      else if !inComment && c == '#' then go true more
      else some c

/-- The value of a hexadecimal digit. -/
def hexDigit? (c : Char) : Option Nat :=
  let n := c.toNat
  if 48 ≤ n && n ≤ 57 then some (n - 48)
  else if 97 ≤ n && n ≤ 102 then some (n - 87)
  else if 65 ≤ n && n ≤ 70 then some (n - 55)
  else none

/-- Whether a number is a Unicode scalar value. -/
def isScalar (n : Nat) : Bool := n ≤ 0x10FFFF && (n < 0xD800 || 0xDFFF < n)

/-- The characters with a meaning of their own in patterns. -/
def metaChars : List Char :=
  ['\\', '.', '+', '*', '?', '(', ')', '|', '[', ']', '{', '}', '^', '$', '#', '&', '-', '~']

/-- Whether an escaped character stands for itself: a meta character, or an
ASCII character that is neither a letter, a digit nor an angle bracket. -/
def isEscapable (c : Char) : Bool :=
  metaChars.contains c || (c.toNat < 128 && !c.isAlphanum && c != '<' && c != '>')

/-- What an escape stands for. -/
inductive Escape where
  /-- One character, by its code point. -/
  | literal (code : Nat)
  /-- A set of characters. -/
  | set
  /-- The start or end of the text. -/
  | anchor
  /-- A word boundary. -/
  | boundary
  deriving DecidableEq, Repr

/-! ## Unicode class names -/

/-- A name in loose form: a leading `is` in any case dropped, blanks, `_` and
`-` dropped, letters lowered, and characters beyond ASCII dropped. The
abbreviation `isc` keeps its `is`. -/
def looseName (s : String) : String :=
  let cs := s.toList
  let (prefixed, body) : Bool × List Char := match cs with
    | a :: b :: rest =>
      if (a == 'i' || a == 'I') && (b == 's' || b == 'S') then (true, rest) else (false, cs)
    | _ => (false, cs)
  let kept := body.filterMap fun c =>
    if c == ' ' || c == '_' || c == '-' || 127 < c.toNat then none else some c.toLower
  if prefixed && kept == ['c'] then "isc" else String.ofList kept

/-- The general categories, by every name, in loose form, and the three
special classes `any`, `assigned` and `ascii`. -/
def categoryNames : List String :=
  ["any", "assigned", "ascii",
   "c", "other", "cc", "control", "cntrl", "cf", "format", "cn", "unassigned",
   "co", "privateuse", "cs", "surrogate", "l", "letter", "lc", "casedletter",
   "ll", "lowercaseletter", "lm", "modifierletter", "lo", "otherletter",
   "lt", "titlecaseletter", "lu", "uppercaseletter", "m", "mark", "combiningmark",
   "mc", "spacingmark", "me", "enclosingmark", "mn", "nonspacingmark",
   "n", "number", "nd", "decimalnumber", "digit", "nl", "letternumber",
   "no", "othernumber", "p", "punctuation", "punct", "pc", "connectorpunctuation",
   "pd", "dashpunctuation", "pe", "closepunctuation", "pf", "finalpunctuation",
   "pi", "initialpunctuation", "po", "otherpunctuation", "ps", "openpunctuation",
   "s", "symbol", "sc", "currencysymbol", "sk", "modifiersymbol",
   "sm", "mathsymbol", "so", "othersymbol", "z", "separator",
   "zl", "lineseparator", "zp", "paragraphseparator", "zs", "spaceseparator"]

/-- The scripts, by code and by name, in loose form. -/
def scriptNames : List String :=
  ["adlm", "adlam", "aghb", "caucasianalbanian", "ahom", "arab", "arabic",
   "armi", "imperialaramaic", "armn", "armenian", "avst", "avestan", "bali", "balinese",
   "bamu", "bamum", "bass", "bassavah", "batk", "batak", "beng", "bengali",
   "bhks", "bhaiksuki", "bopo", "bopomofo", "brah", "brahmi", "brai", "braille",
   "bugi", "buginese", "buhd", "buhid", "cakm", "chakma", "cans", "canadianaboriginal",
   "cari", "carian", "cham", "cher", "cherokee", "chrs", "chorasmian",
   "copt", "coptic", "qaac", "cpmn", "cyprominoan", "cprt", "cypriot",
   "cyrl", "cyrillic", "deva", "devanagari", "diak", "divesakuru", "dogr", "dogra",
   "dsrt", "deseret", "dupl", "duployan", "egyp", "egyptianhieroglyphs",
   "elba", "elbasan", "elym", "elymaic", "ethi", "ethiopic", "gara", "garay",
   "geor", "georgian", "glag", "glagolitic", "gong", "gunjalagondi", "gonm", "masaramgondi",
   "goth", "gothic", "gran", "grantha", "grek", "greek", "gujr", "gujarati",
   "gukh", "gurungkhema", "guru", "gurmukhi", "hang", "hangul", "hani", "han",
   "hano", "hanunoo", "hatr", "hatran", "hebr", "hebrew", "hira", "hiragana",
   "hluw", "anatolianhieroglyphs", "hmng", "pahawhhmong", "hmnp", "nyiakengpuachuehmong",
   "hung", "oldhungarian", "ital", "olditalic", "java", "javanese",
   "kali", "kayahli", "kana", "katakana", "kawi", "khar", "kharoshthi",
   "khmr", "khmer", "khoj", "khojki", "kits", "khitansmallscript", "knda", "kannada",
   "krai", "kiratrai", "kthi", "kaithi", "lana", "taitham", "laoo", "lao",
   "latn", "latin", "lepc", "lepcha", "limb", "limbu", "lina", "lineara",
   "linb", "linearb", "lisu", "lyci", "lycian", "lydi", "lydian",
   "mahj", "mahajani", "maka", "makasar", "mand", "mandaic", "mani", "manichaean",
   "marc", "marchen", "medf", "medefaidrin", "mend", "mendekikakui",
   "merc", "meroiticcursive", "mero", "meroitichieroglyphs", "mlym", "malayalam",
   "modi", "mong", "mongolian", "mroo", "mro", "mtei", "meeteimayek",
   "mult", "multani", "mymr", "myanmar", "nagm", "nagmundari", "nand", "nandinagari",
   "narb", "oldnortharabian", "nbat", "nabataean", "newa", "nkoo", "nko",
   "nshu", "nushu", "ogam", "ogham", "olck", "olchiki", "onao", "olonal",
   "orkh", "oldturkic", "orya", "oriya", "osge", "osage", "osma", "osmanya",
   "ougr", "olduyghur", "palm", "palmyrene", "pauc", "paucinhau", "perm", "oldpermic",
   "phag", "phagspa", "phli", "inscriptionalpahlavi", "phlp", "psalterpahlavi",
   "phnx", "phoenician", "plrd", "miao", "prti", "inscriptionalparthian",
   "rjng", "rejang", "rohg", "hanifirohingya", "runr", "runic", "samr", "samaritan",
   "sarb", "oldsoutharabian", "saur", "saurashtra", "sgnw", "signwriting",
   "shaw", "shavian", "shrd", "sharada", "sidd", "siddham", "sind", "khudawadi",
   "sinh", "sinhala", "sogd", "sogdian", "sogo", "oldsogdian", "sora", "sorasompeng",
   "soyo", "soyombo", "sund", "sundanese", "sunu", "sunuwar", "sylo", "sylotinagri",
   "syrc", "syriac", "tagb", "tagbanwa", "takr", "takri", "tale", "taile",
   "talu", "newtailue", "taml", "tamil", "tang", "tangut", "tavt", "taiviet",
   "telu", "telugu", "tfng", "tifinagh", "tglg", "tagalog", "thaa", "thaana",
   "thai", "tibt", "tibetan", "tirh", "tirhuta", "tnsa", "tangsa", "todr", "todhri",
   "toto", "tutg", "tulutigalari", "ugar", "ugaritic", "vaii", "vai", "vith", "vithkuqi",
   "wara", "warangciti", "wcho", "wancho", "xpeo", "oldpersian", "xsux", "cuneiform",
   "yezi", "yezidi", "yiii", "yi", "zanb", "zanabazarsquare",
   "zinh", "inherited", "qaai", "zyyy", "common", "zzzz", "unknown"]

/-- The binary properties, by every name, in loose form. -/
def binaryNames : List String :=
  ["ahex", "asciihexdigit", "alpha", "alphabetic", "bidic", "bidicontrol",
   "bidim", "bidimirrored", "ci", "caseignorable", "cased",
   "cwcf", "changeswhencasefolded", "cwcm", "changeswhencasemapped",
   "cwl", "changeswhenlowercased", "cwkcf", "changeswhennfkccasefolded",
   "cwt", "changeswhentitlecased", "cwu", "changeswhenuppercased", "dash",
   "di", "defaultignorablecodepoint", "dep", "deprecated", "dia", "diacritic",
   "emoji", "ecomp", "emojicomponent", "emod", "emojimodifier",
   "ebase", "emojimodifierbase", "epres", "emojipresentation",
   "extpict", "extendedpictographic", "ext", "extender",
   "grbase", "graphemebase", "grext", "graphemeextend", "hex", "hexdigit",
   "idsb", "idsbinaryoperator", "idst", "idstrinaryoperator", "idsu", "idsunaryoperator",
   "idcompatmathcontinue", "idcompatmathstart", "idc", "idcontinue", "ids", "idstart",
   "ideo", "ideographic", "joinc", "joincontrol", "loe", "logicalorderexception",
   "lower", "lowercase", "math", "mcm", "modifiercombiningmark",
   "nchar", "noncharactercodepoint", "patsyn", "patternsyntax",
   "patws", "patternwhitespace", "pcm", "prependedconcatenationmark",
   "qmark", "quotationmark", "radical", "ri", "regionalindicator",
   "sterm", "sentenceterminal", "sd", "softdotted", "term", "terminalpunctuation",
   "uideo", "unifiedideograph", "upper", "uppercase", "vs", "variationselector",
   "wspace", "whitespace", "space", "xidc", "xidcontinue", "xids", "xidstart"]

/-- Whether a class named alone (`\pL`, `\p{Greek}`) exists: a binary
property, a general category or a script. -/
def knownClass (name : String) : Bool :=
  let n := looseName name
  binaryNames.contains n || categoryNames.contains n || scriptNames.contains n

/-- Whether a class named by a property and a value (`\p{sc=Greek}`) exists. -/
def knownValue (property value : String) : Bool :=
  let p := looseName property
  let v := looseName value
  if p == "gc" || p == "generalcategory" then categoryNames.contains v
  else if ["sc", "script", "scx", "scriptextensions"].contains p then scriptNames.contains v
  else if ["age", "gcb", "graphemeclusterbreak", "wb", "wordbreak", "sb", "sentencebreak"].contains p
  then !v.isEmpty
  else false

/-- Whether the text inside `\p{…}` names a class: `name`, or a property and
a value joined by `!=`, `:` or `=`, looked for in that order. -/
def knownBraced (body : String) : Bool :=
  match body.splitOn "!=" with
  | p :: v :: more => knownValue p ("!=".intercalate (v :: more))
  | _ =>
    match body.splitOn ":" with
    | p :: v :: more => knownValue p (":".intercalate (v :: more))
    | _ =>
      match body.splitOn "=" with
      | p :: v :: more => knownValue p ("=".intercalate (v :: more))
      | _ => knownClass body

/-! ## Escapes -/

/-- Reads `n` more hexadecimal digits, blanks between them skipped under `x`,
onto `acc`: the value and what follows. -/
def fixedHex (verbose : Bool) : Nat → Nat → List Char → Option (Nat × List Char)
  | 0, acc, cs => some (acc, cs)
  | k + 1, acc, c :: cs =>
    match hexDigit? c with
    | some d => fixedHex verbose k (16 * acc + d) (skipBlanks verbose cs)
    | none => none
  | _ + 1, _, [] => none

/-- Reads hexadecimal digits up to `}` onto `acc`, with `count` digits read so
far: the value, how many digits and what follows the brace. -/
def bracedHex (verbose : Bool) : Nat → Nat → Nat → List Char → Option (Nat × Nat × List Char)
  | 0, _, _, _ => none
  | _ + 1, _, _, [] => none
  | fuel + 1, acc, count, c :: cs =>
    if c == '}' then some (acc, count, skipBlanks verbose cs)
    else
      match hexDigit? c with
      | some d => bracedHex verbose fuel (16 * acc + d) (count + 1) (skipBlanks verbose cs)
      | none => none

/-- Reads a code point escape after `\x`, `\u` or `\U`, which take `width`
digits or any number of digits in braces: the code point and what follows. -/
def hexEscape (verbose : Bool) (width : Nat) (afterLetter : List Char) : Option (Escape × List Char) :=
  match skipBlanks verbose afterLetter with
  | [] => none
  | '{' :: rest =>
    match bracedHex verbose (rest.length + 1) 0 0 (skipBlanks verbose rest) with
    | some (n, count, after) => if 0 < count && isScalar n then some (.literal n, after) else none
    | none => none
  | cs =>
    match fixedHex verbose width 0 cs with
    | some (n, after) => if isScalar n then some (.literal n, after) else none
    | none => none

/-- Collects the characters of `\p{…}` up to `}`, blanks skipped under `x`. -/
def bracedName (verbose : Bool) : Nat → List Char → List Char → Option (List Char × List Char)
  | 0, _, _ => none
  | _ + 1, _, [] => none
  | fuel + 1, acc, c :: cs =>
    if c == '}' then some (acc, cs)
    else bracedName verbose fuel (acc ++ [c]) (skipBlanks verbose cs)

/-- Reads a Unicode class after `\p` or `\P`: a letter, or a name in braces. -/
def unicodeClass (verbose : Bool) (afterLetter : List Char) : Option (Escape × List Char) :=
  match skipBlanks verbose afterLetter with
  | [] => none
  | '{' :: rest =>
    match bracedName verbose (rest.length + 1) [] (skipBlanks verbose rest) with
    | some (name, after) => if knownBraced (String.ofList name) then some (.set, after) else none
    | none => none
  | c :: rest =>
    if c == '\\' then none
    else if knownClass c.toString then some (.set, skipBlanks verbose rest)
    else none

/-- Collects the letters and dashes of a special word boundary's name. -/
def boundaryName (verbose : Bool) : Nat → List Char → List Char → List Char × List Char
  | 0, acc, cs => (acc, cs)
  | _ + 1, acc, [] => (acc, [])
  | fuel + 1, acc, c :: cs =>
    if c.isAlpha || c == '-' then boundaryName verbose fuel (acc ++ [c]) (skipBlanks verbose cs)
    else (acc, c :: cs)

/-- Reads what may follow `\b` at a `{`: a special word boundary's name in
braces, or, when the brace does not start with a letter or dash, nothing (the
brace then starts a counted repetition). -/
def specialBoundary (verbose : Bool) (atBrace : List Char) : Option (List Char) :=
  match atBrace with
  | '{' :: rest =>
    match skipBlanks verbose rest with
    | [] => none
    | c :: more =>
      if !(c.isAlpha || c == '-') then some atBrace
      else
        match boundaryName verbose (more.length + 2) [] (c :: more) with
        | (name, '}' :: after) =>
          if ["start", "end", "start-half", "end-half"].contains (String.ofList name) then some after
          else none
        | _ => none
  | _ => some atBrace

/-- Reads an escape, after its backslash: what it stands for and what follows.
Without the flag `u` a pattern matches bytes, and must not match any that is
not text: Unicode classes, the negated classes `\D \S \W` and bytes from
`\x80` up are refused then. -/
def escape (verbose unicode : Bool) : List Char → Option (Escape × List Char)
  | [] => none
  | c :: rest =>
    if c.isDigit then none
    else if c == 'x' then
      (hexEscape verbose 2 rest).filter fun (e, _) =>
        match e with
        | .literal n => unicode || n < 128
        | _ => true
    else if c == 'u' then hexEscape verbose 4 rest
    else if c == 'U' then hexEscape verbose 8 rest
    else if c == 'p' || c == 'P' then if unicode then unicodeClass verbose rest else none
    else if ['d', 's', 'w'].contains c then some (.set, rest)
    else if ['D', 'S', 'W'].contains c then if unicode then some (.set, rest) else none
    else if isEscapable c then some (.literal c.toNat, rest)
    else
      match c with
      | 'a' => some (.literal 7, rest)
      | 'f' => some (.literal 12, rest)
      | 't' => some (.literal 9, rest)
      | 'n' => some (.literal 10, rest)
      | 'r' => some (.literal 13, rest)
      | 'v' => some (.literal 11, rest)
      | 'A' | 'z' => some (.anchor, rest)
      | 'b' => (specialBoundary verbose rest).map fun after => (.boundary, after)
      | 'B' | '<' | '>' => some (.boundary, rest)
      | _ => none

/-! ## Bracketed classes -/

/-- The names of the classes `[:name:]`. -/
def asciiClassNames : List String :=
  ["alnum", "alpha", "ascii", "blank", "cntrl", "digit", "graph", "lower", "print",
   "punct", "space", "upper", "word", "xdigit"]

/-- Reads a class `[:name:]` or `[:^name:]` after its first bracket: whether
it is negated and what follows, or none when there is no such class here. -/
def asciiClass? : List Char → Option (Bool × List Char)
  | ':' :: rest =>
    let (negated, body) := match rest with
      | '^' :: r => (true, r)
      | r => (false, r)
    let name := body.takeWhile (· != ':')
    match body.drop name.length with
    | ':' :: ']' :: after =>
      if asciiClassNames.contains (String.ofList name) then some (negated, after) else none
    | _ => none
  | _ => none

/-- Skips the `-` characters that start a class, blanks after each skipped under `x`. -/
def leadingDashes (verbose : Bool) : Nat → Bool → List Char → Option (Bool × List Char)
  | 0, _, _ => none
  | fuel + 1, seen, cs =>
    match cs with
    | '-' :: rest =>
      match skipBlanks verbose rest with
      | [] => none
      | more => leadingDashes verbose fuel true more
    | _ => some (seen, cs)

/-- Opens a class after its `[`: passes a `^`, leading `-`s and a first `]`,
which stand for themselves. Without the flag `u`, a negated class would match
bytes that are not text, and is refused. -/
def classOpen (verbose unicode : Bool) (afterBracket : List Char) : Option (List Char) :=
  match skipBlanks verbose afterBracket with
  | [] => none
  | cs =>
    let (negated, body) := match cs with
      | '^' :: r => (true, skipBlanks verbose r)
      | _ => (false, cs)
    if body.isEmpty || (negated && !unicode) then none
    else
      match leadingDashes verbose (body.length + 1) false body with
      | some (false, ']' :: rest) =>
        match skipBlanks verbose rest with
        | [] => none
        | more => some more
      | some (_, rest) => some rest
      | none => none

/-- Reads one item of a class: an escape or a character. -/
def classItem (verbose unicode : Bool) : List Char → Option (Escape × List Char)
  | [] => none
  | '\\' :: rest => escape verbose unicode rest
  | c :: rest => some (.literal c.toNat, rest)

/-- An item of a class alone: anchors and word boundaries may not stand in one. -/
def classAlone (e : Escape) (after : List Char) : Option (List Char) :=
  match e with
  | .literal _ | .set => some after
  | _ => none

/-- Reads an item or a range of a class. A `-` makes a range unless `]` or
another `-` follows it; both ends of a range are characters, in order. -/
def classRange (verbose unicode : Bool) (cs : List Char) : Option (List Char) :=
  match classItem verbose unicode cs with
  | none => none
  | some (first, after) =>
    match skipBlanks verbose after with
    | [] => none
    | '-' :: rest =>
      match peekPastBlanks verbose rest with
      | some ']' | some '-' => classAlone first ('-' :: rest)
      | _ =>
        match skipBlanks verbose rest with
        | [] => none
        | more =>
          match first, classItem verbose unicode more with
          | .literal a, some (.literal b, after2) => if a ≤ b then some after2 else none
          | _, _ => none
    | more => classAlone first more

/-- Reads the inside of a class `depth` brackets deep, up to the bracket that
closes the outermost: what follows it. -/
def classBody (verbose unicode : Bool) : Nat → Nat → List Char → Option (List Char)
  | 0, _, _ => none
  | fuel + 1, depth, cs =>
    match skipBlanks verbose cs with
    | [] => none
    | ']' :: rest => if depth ≤ 1 then some rest else classBody verbose unicode fuel (depth - 1) rest
    | '[' :: rest =>
      match asciiClass? rest with
      | some (negated, after) =>
        if negated && !unicode then none else classBody verbose unicode fuel depth after
      | none =>
        match classOpen verbose unicode rest with
        | some after => classBody verbose unicode fuel (depth + 1) after
        | none => none
    | '&' :: '&' :: rest => classBody verbose unicode fuel depth rest
    | '-' :: '-' :: rest => classBody verbose unicode fuel depth rest
    | '~' :: '~' :: rest => classBody verbose unicode fuel depth rest
    | more =>
      match classRange verbose unicode more with
      | some after => classBody verbose unicode fuel depth after
      | none => none

/-- Reads a bracketed class after its first `[`: what follows it. -/
def bracketed (verbose unicode : Bool) (afterBracket : List Char) : Option (List Char) :=
  (classOpen verbose unicode afterBracket).bind fun cs => classBody verbose unicode (cs.length + 1) 1 cs

/-! ## Counted repetitions -/

/-- Reads decimal digits onto `acc`, blanks between them skipped under `x`:
the value, how many digits, and what follows. -/
def digitsFrom (verbose : Bool) : Nat → Nat → Nat → List Char → Nat × Nat × List Char
  | 0, acc, count, cs => (acc, count, cs)
  | _ + 1, acc, count, [] => (acc, count, [])
  | fuel + 1, acc, count, c :: cs =>
    if c.isDigit then digitsFrom verbose fuel (10 * acc + (c.toNat - 48)) (count + 1) (skipBlanks verbose cs)
    else (acc, count, c :: cs)

/-- Reads a count of a repetition: a decimal number below `2^32` with blanks
around it. -/
def count (verbose : Bool) (cs : List Char) : Option (Nat × List Char) :=
  let cs := cs.dropWhile isWhiteSpace
  let (n, digits, after) := digitsFrom verbose (cs.length + 1) 0 0 cs
  if digits == 0 || Nat.pow 2 32 ≤ n then none
  else some (n, after.dropWhile isWhiteSpace)

/-- Reads a counted repetition after its `{`: `m}`, `m,}` or `m,n}` with
`m ≤ n`, and an optional `?`. -/
def counted (verbose : Bool) (afterBrace : List Char) : Option (List Char) :=
  match skipBlanks verbose afterBrace with
  | [] => none
  | cs =>
    match count verbose cs with
    | none => none
    | some (low, after) =>
      let closing : Option (List Char) := match after with
        | ',' :: rest =>
          match skipBlanks verbose rest with
          | '}' :: more => some ('}' :: more)
          | [] => none
          | more =>
            match count verbose more with
            | some (high, after2) => if low ≤ high then some after2 else none
            | none => none
        | _ => some after
      match closing with
      | some ('}' :: rest) =>
        match skipBlanks verbose rest with
        | '?' :: more => some more
        | more => some more
      | _ => none

/-! ## Groups and the whole pattern -/

/-- What the sequence being read ends with, which decides whether a
repetition has something to repeat. -/
inductive Tail where
  /-- Nothing: the start of a group or of an alternative. -/
  | empty
  /-- A setting of flags, `(?i)`. -/
  | flags
  /-- Something that can be repeated. -/
  | item
  deriving DecidableEq, Repr

/-- Where reading a pattern stands. -/
structure Scan where
  /-- Whether the flag `x` is on. -/
  verbose : Bool := false
  /-- Whether the flag `u` is on. -/
  unicode : Bool := true
  /-- For each open group, innermost first, the flags `x` and `u` outside it. -/
  outer : List (Bool × Bool) := []
  tail : Tail := .empty
  /-- The group names used so far. -/
  names : List String := []
  /-- Whether a Unicode word boundary was met. -/
  boundary : Bool := false
  deriving Repr

/-- Whether a character may stand in a group name; the first must be a
letter or `_`. -/
def isNameChar (c : Char) (first : Bool) : Bool :=
  if first then c == '_' || isAlphabetic c
  else c == '_' || c == '.' || c == '[' || c == ']' || isAlphanumeric c

/-- Reads a group name up to `>`: the name and what follows. -/
def groupName (acc : List Char) : List Char → Option (String × List Char)
  | [] => none
  | '>' :: rest => if acc.isEmpty then none else some (String.ofList acc, rest)
  | c :: rest => if isNameChar c acc.isEmpty then groupName (acc ++ [c]) rest else none

/-- Reads flags up to `:` or `)`: the flags (`none` for the `-`), the closing
character and what follows. -/
def flagItems (items : List (Option Char)) (lastNegation : Bool) :
    List Char → Option (List (Option Char) × Char × List Char)
  | [] => none
  | c :: rest =>
    if c == ':' || c == ')' then (if lastNegation then none else some (items, c, rest))
    else if c == '-' then
      if items.contains none then none else flagItems (items ++ [none]) true rest
    else if ['i', 'm', 's', 'U', 'u', 'R', 'x'].contains c then
      if items.contains (some c) then none else flagItems (items ++ [some c]) false rest
    else none

/-- The state of a flag after flags are set: on if it stands before the `-`,
off if after, unchanged if absent. -/
def flagAfter (flag : Char) (items : List (Option Char)) (current : Bool) : Bool :=
  go false items
where
  /-- Looks for the flag, knowing whether the `-` was passed. -/
  go (negated : Bool) : List (Option Char) → Bool
    | [] => current
    | none :: more => go true more
    | some c :: more => if c == flag then !negated else go negated more

/-- The state after flags are set. -/
def Scan.setFlags (s : Scan) (items : List (Option Char)) : Scan :=
  { s with verbose := flagAfter 'x' items s.verbose, unicode := flagAfter 'u' items s.unicode }

/-- Opens a group after its `(`: the new state and what follows. -/
def openGroup (s : Scan) (afterParen : List Char) : Option (Scan × List Char) :=
  let inner : Scan := { s with outer := (s.verbose, s.unicode) :: s.outer, tail := .empty }
  let named (rest : List Char) : Option (Scan × List Char) :=
    match groupName [] rest with
    | some (name, after) =>
      if s.names.contains name then none else some ({ inner with names := s.names ++ [name] }, after)
    | none => none
  match skipBlanks s.verbose afterParen with
  | '?' :: '=' :: _ | '?' :: '!' :: _ | '?' :: '<' :: '=' :: _ | '?' :: '<' :: '!' :: _ => none
  | '?' :: 'P' :: '<' :: rest => named rest
  | '?' :: '<' :: rest => named rest
  | '?' :: rest =>
    if rest.isEmpty then none
    else
      match flagItems [] false rest with
      | some (items, ')', after) =>
        if items.isEmpty then none else some ({ s.setFlags items with tail := .flags }, after)
      | some (items, _, after) => some (inner.setFlags items, after)
      | none => none
  | cs => some (inner, cs)

/-- Reads a pattern from where `s` stands to its end. -/
def scan : Nat → Scan → List Char → Option Scan
  | 0, _, _ => none
  | fuel + 1, s, cs =>
    match skipBlanks s.verbose cs with
    | [] => if s.outer.isEmpty then some s else none
    | '(' :: rest =>
      match openGroup s rest with
      | some (s, after) => scan fuel s after
      | none => none
    | ')' :: rest =>
      match s.outer with
      | (v, u) :: more => scan fuel { s with verbose := v, unicode := u, outer := more, tail := .item } rest
      | [] => none
    | '|' :: rest => scan fuel { s with tail := .empty } rest
    | '[' :: rest =>
      match bracketed s.verbose s.unicode rest with
      | some after => scan fuel { s with tail := .item } after
      | none => none
    | '\\' :: rest =>
      match escape s.verbose s.unicode rest with
      | some (e, after) =>
        scan fuel { s with tail := .item, boundary := s.boundary || (s.unicode && e == .boundary) } after
      | none => none
    | '{' :: rest =>
      if s.tail == .item then
        match counted s.verbose rest with
        | some after => scan fuel s after
        | none => none
      else none
    | c :: rest =>
      if c == '?' || c == '*' || c == '+' then
        if s.tail == .item then
          match rest with
          | '?' :: more => scan fuel s more
          | _ => scan fuel s rest
        else none
      else if c == '.' && !s.unicode then none
      else scan fuel { s with tail := .item } rest

/-- Checks a pattern. -/
def check (pattern : String) : Verdict :=
  let cs := pattern.toList
  match scan (cs.length + 1) {} cs with
  | none => .malformed
  | some s => if s.boundary then .wordBoundary else .accepted

example : check "a+b" = .accepted ∧ check "(" = .malformed ∧ check "[" = .malformed ∧
    check "x\\b" = .wordBoundary := by decide

end LoadScenario.Text.Pattern
