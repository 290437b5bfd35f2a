import Scaffold.Text.Integer
import Scaffold.Text.Search

/-!
# Plain text from markup

A text without the tags and comments in it, and with character references replaced by the
characters they stand for.
-/

namespace Scaffold

namespace Text

/-! ### Character references -/

/-- Named characters whose reference may lack the semicolon. -/
def bareReferences : List (String × Nat) :=
  [("AElig", 0xc6), ("AMP", 0x26), ("Aacute", 0xc1), ("Acirc", 0xc2), ("Agrave", 0xc0),
    ("Aring", 0xc5), ("Atilde", 0xc3), ("Auml", 0xc4), ("COPY", 0xa9), ("Ccedil", 0xc7),
    ("ETH", 0xd0), ("Eacute", 0xc9), ("Ecirc", 0xca), ("Egrave", 0xc8), ("Euml", 0xcb),
    ("GT", 0x3e), ("Iacute", 0xcd), ("Icirc", 0xce), ("Igrave", 0xcc), ("Iuml", 0xcf),
    ("LT", 0x3c), ("Ntilde", 0xd1), ("Oacute", 0xd3), ("Ocirc", 0xd4), ("Ograve", 0xd2),
    ("Oslash", 0xd8), ("Otilde", 0xd5), ("Ouml", 0xd6), ("QUOT", 0x22), ("REG", 0xae),
    ("THORN", 0xde), ("Uacute", 0xda), ("Ucirc", 0xdb), ("Ugrave", 0xd9), ("Uuml", 0xdc),
    ("Yacute", 0xdd), ("aacute", 0xe1), ("acirc", 0xe2), ("acute", 0xb4), ("aelig", 0xe6),
    ("agrave", 0xe0), ("amp", 0x26), ("aring", 0xe5), ("atilde", 0xe3), ("auml", 0xe4),
    ("brvbar", 0xa6), ("ccedil", 0xe7), ("cedil", 0xb8), ("cent", 0xa2), ("copy", 0xa9),
    ("curren", 0xa4), ("deg", 0xb0), ("divide", 0xf7), ("eacute", 0xe9), ("ecirc", 0xea),
    ("egrave", 0xe8), ("eth", 0xf0), ("euml", 0xeb), ("frac12", 0xbd), ("frac14", 0xbc),
    ("frac34", 0xbe), ("gt", 0x3e), ("iacute", 0xed), ("icirc", 0xee), ("iexcl", 0xa1),
    ("igrave", 0xec), ("iquest", 0xbf), ("iuml", 0xef), ("laquo", 0xab), ("lt", 0x3c),
    ("macr", 0xaf), ("micro", 0xb5), ("middot", 0xb7), ("nbsp", 0xa0), ("not", 0xac),
    ("ntilde", 0xf1), ("oacute", 0xf3), ("ocirc", 0xf4), ("ograve", 0xf2), ("ordf", 0xaa),
    ("ordm", 0xba), ("oslash", 0xf8), ("otilde", 0xf5), ("ouml", 0xf6), ("para", 0xb6),
    ("plusmn", 0xb1), ("pound", 0xa3), ("quot", 0x22), ("raquo", 0xbb), ("reg", 0xae),
    ("sect", 0xa7), ("shy", 0xad), ("sup1", 0xb9), ("sup2", 0xb2), ("sup3", 0xb3), ("szlig", 0xdf),
    ("thorn", 0xfe), ("times", 0xd7), ("uacute", 0xfa), ("ucirc", 0xfb), ("ugrave", 0xf9),
    ("uml", 0xa8), ("uuml", 0xfc), ("yacute", 0xfd), ("yen", 0xa5), ("yuml", 0xff)]

/-- Further named characters. -/
def closedReferences : List (String × Nat) :=
  [("Alpha", 0x391), ("Beta", 0x392), ("Chi", 0x3a7), ("Dagger", 0x2021), ("Delta", 0x394),
    ("Epsilon", 0x395), ("Eta", 0x397), ("Gamma", 0x393), ("Iota", 0x399), ("Kappa", 0x39a),
    ("Lambda", 0x39b), ("Mu", 0x39c), ("Nu", 0x39d), ("OElig", 0x152), ("Omega", 0x3a9),
    ("Omicron", 0x39f), ("Phi", 0x3a6), ("Pi", 0x3a0), ("Prime", 0x2033), ("Psi", 0x3a8),
    ("Rho", 0x3a1), ("Scaron", 0x160), ("Sigma", 0x3a3), ("Tau", 0x3a4), ("Theta", 0x398),
    ("Upsilon", 0x3a5), ("Xi", 0x39e), ("Yuml", 0x178), ("Zeta", 0x396), ("alefsym", 0x2135),
    ("alpha", 0x3b1), ("and", 0x2227), ("ang", 0x2220), ("apos", 0x27), ("asymp", 0x2248),
    ("bdquo", 0x201e), ("beta", 0x3b2), ("bull", 0x2022), ("cap", 0x2229), ("chi", 0x3c7),
    ("circ", 0x2c6), ("clubs", 0x2663), ("cong", 0x2245), ("crarr", 0x21b5), ("cup", 0x222a),
    ("dArr", 0x21d3), ("dagger", 0x2020), ("darr", 0x2193), ("delta", 0x3b4), ("diams", 0x2666),
    ("empty", 0x2205), ("emsp", 0x2003), ("ensp", 0x2002), ("epsilon", 0x3b5), ("equiv", 0x2261),
    ("eta", 0x3b7), ("euro", 0x20ac), ("exist", 0x2203), ("fnof", 0x192), ("forall", 0x2200),
    ("frasl", 0x2044), ("gamma", 0x3b3), ("ge", 0x2265), ("hArr", 0x21d4), ("harr", 0x2194),
    ("hearts", 0x2665), ("hellip", 0x2026), ("image", 0x2111), ("infin", 0x221e), ("int", 0x222b),
    ("iota", 0x3b9), ("isin", 0x2208), ("kappa", 0x3ba), ("lArr", 0x21d0), ("lambda", 0x3bb),
    ("lang", 0x2329), ("larr", 0x2190), ("lceil", 0x2308), ("ldquo", 0x201c), ("le", 0x2264),
    ("lfloor", 0x230a), ("lowast", 0x2217), ("loz", 0x25ca), ("lrm", 0x200e), ("lsaquo", 0x2039),
    ("lsquo", 0x2018), ("mdash", 0x2014), ("minus", 0x2212), ("mu", 0x3bc), ("nabla", 0x2207),
    ("ndash", 0x2013), ("ne", 0x2260), ("ni", 0x220b), ("notin", 0x2209), ("nsub", 0x2284),
    ("nu", 0x3bd), ("oelig", 0x153), ("oline", 0x203e), ("omega", 0x3c9), ("omicron", 0x3bf),
    ("oplus", 0x2295), ("or", 0x2228), ("otimes", 0x2297), ("part", 0x2202), ("permil", 0x2030),
    ("perp", 0x22a5), ("phi", 0x3c6), ("pi", 0x3c0), ("piv", 0x3d6), ("prime", 0x2032),
    ("prod", 0x220f), ("prop", 0x221d), ("psi", 0x3c8), ("rArr", 0x21d2), ("radic", 0x221a),
    ("rang", 0x232a), ("rarr", 0x2192), ("rceil", 0x2309), ("rdquo", 0x201d), ("real", 0x211c),
    ("rfloor", 0x230b), ("rho", 0x3c1), ("rlm", 0x200f), ("rsaquo", 0x203a), ("rsquo", 0x2019),
    ("sbquo", 0x201a), ("scaron", 0x161), ("sdot", 0x22c5), ("sigma", 0x3c3), ("sigmaf", 0x3c2),
    ("sim", 0x223c), ("spades", 0x2660), ("sub", 0x2282), ("sube", 0x2286), ("sum", 0x2211),
    ("sup", 0x2283), ("supe", 0x2287), ("tau", 0x3c4), ("there4", 0x2234), ("theta", 0x3b8),
    ("thetasym", 0x3d1), ("thinsp", 0x2009), ("tilde", 0x2dc), ("trade", 0x2122), ("uArr", 0x21d1),
    ("uarr", 0x2191), ("upsih", 0x3d2), ("upsilon", 0x3c5), ("weierp", 0x2118), ("xi", 0x3be),
    ("zeta", 0x3b6), ("zwj", 0x200d), ("zwnj", 0x200c)]

/-- The characters that references to codes from 128 to 159 stand for. -/
def codePageCharacters : List Nat :=
  [0x20ac, 0x81, 0x201a, 0x192, 0x201e, 0x2026, 0x2020, 0x2021, 0x2c6, 0x2030, 0x160, 0x2039,
    0x152, 0x8d, 0x17d, 0x8f, 0x90, 0x2018, 0x2019, 0x201c, 0x201d, 0x2022, 0x2013, 0x2014,
    0x2dc, 0x2122, 0x161, 0x203a, 0x153, 0x9d, 0x17e, 0x178]

/-- Whether a code is for no character that a text may hold. -/
def isBarredCode (n : Nat) : Bool :=
  (n != 0 && n < 9) || n = 11 || (14 ≤ n && n < 32) || n = 127 || (0xfdd0 ≤ n && n ≤ 0xfdef) ||
    (0xfffe ≤ n % 0x10000)

/-- What a numeric reference stands for. -/
def referredByCode (n : Nat) : Text :=
  if n = 0 || 0x10ffff < n || (0xd800 ≤ n && n < 0xe000) then [Char.ofNat 0xfffd]
  else if 128 ≤ n && n < 160 then [Char.ofNat (codePageCharacters.getD (n - 128) n)]
  else if isBarredCode n then []
  else [Char.ofNat n]

/-- The character that a name stands for. -/
def namedCharacter? (table : List (String × Nat)) (name : Text) : Option Char :=
  (table.find? fun (n, _) => of n = name).map fun (_, code) => Char.ofNat code

/-- The longest start of a name that is itself one, at least two characters long, and the length
of it. -/
def namedStart? (name : Text) : (length : Nat) → Option (Char × Nat)
  | 0 | 1 => none
  | n + 1 => match namedCharacter? bareReferences (name.take (n + 1)) with
    | some c => some (c, n + 1)
    | none => namedStart? name n

/-- The text without a semicolon at its start, and whether there was one. -/
def skipSemicolon : Text → Bool × Text
  | ';' :: rest => (true, rest)
  | rest => (false, rest)

/-- A numeric reference behind its mark: what it stands for and the text behind it. -/
def numericReference? (base : Nat) (s : Text) : Option (Text × Text) :=
  let digits := s.takeWhile fun c =>
    c.isDigit || (base = 16 && ('a' ≤ c.toLower && c.toLower ≤ 'f'))
  (readDigits? base 0 false digits).map fun n =>
    (referredByCode n, (skipSemicolon (s.drop digits.length)).2)

/-- A reference by name behind its mark: what it stands for and the text behind it. -/
def namedReference? (s : Text) : Option (Text × Text) :=
  let name := (s.takeWhile fun c => !(of "\t\n\x0c <&#;").contains c).take 32
  let (isClosed, rest) := skipSemicolon (s.drop name.length)
  let whole := namedCharacter? bareReferences name <|>
    (if isClosed then namedCharacter? closedReferences name else none)
  match whole with
  | some c => some ([c], rest)
  | none => (namedStart? name (name.length - if isClosed then 0 else 1)).map fun (c, n) =>
      ([c], s.drop n)

/-- The reference behind its mark: what it stands for and the text behind it. -/
def reference? : Text → Option (Text × Text)
  | '#' :: 'x' :: s | '#' :: 'X' :: s => numericReference? 16 s
  | '#' :: s => numericReference? 10 s
  | s => namedReference? s

/-- A text with the references in it replaced. -/
def unescapedFrom : (fuel : Nat) → Text → Text
  | 0, s => s
  | _, [] => []
  | fuel + 1, c :: s =>
    if c = '&' then
      match reference? s with
      | some (characters, rest) => characters ++ unescapedFrom fuel rest
      | none => c :: unescapedFrom fuel s
    else c :: unescapedFrom fuel s

/-- A text with the references in it replaced. -/
def unescaped (s : Text) : Text := unescapedFrom s.length s

/-! ### Tags -/

/-- A text without what stands from an opening mark to the next closing one. Where there is no
closing mark the rest is left as it is. -/
def withoutSpans (opening closing : Text) : (fuel : Nat) → Text → Text
  | 0, s => s
  | fuel + 1, s =>
    match cutAt? opening s with
    | none => s
    | some (before, behind) =>
      match cutAt? closing (opening ++ behind) with
      | none => s
      | some (_, rest) => withoutSpans opening closing fuel (before ++ rest)

/-- A text without comments and tags, its blanks folded and its references replaced. -/
def withoutTags (s : Text) : Text :=
  let s := withoutSpans (of "<!--") (of "-->") s.length s
  let s := withoutSpans ['<'] ['>'] s.length s
  unescaped (join [' '] (wordsAtFirst (s.length + 1) s))

end Text

end Scaffold
