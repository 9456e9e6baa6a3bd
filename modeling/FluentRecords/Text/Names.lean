import FluentRecords.Text.Names.Alphabets
import FluentRecords.Text.Names.Scripts
import FluentRecords.Text.Names.Supplement
import FluentRecords.Text.Names.Symbols
import FluentRecords.Text.Ranges

/-!
Code points by name. Tables of names consist of groups that end with a full stop: the first code point in
hexadecimal, what its name and the following ones begin with, and then what they go on with, one after
the other. Syllables and ideographs are named by rules. Tables are searched without regard to case,
rules are not.
-/

namespace FluentRecords.Text

/-- Further names of code points, in groups of a code point and its names. -/
def aliasNames : String :=
  "0:NULL,NUL. 1:START OF HEADING,SOH. 2:START OF TEXT,STX. 3:END OF TEXT,ETX. 4:END OF
    TRANSMISSION,EOT. 5:ENQUIRY,ENQ. 6:ACKNOWLEDGE,ACK. 7:ALERT,BEL. 8:BACKSPACE,BS. 9:CHARACTER
    TABULATION,HORIZONTAL TABULATION,HT,TAB. A:LINE FEED,NEW LINE,END OF LINE,LF,NL,EOL. B:LINE
    TABULATION,VERTICAL TABULATION,VT. C:FORM FEED,FF. D:CARRIAGE RETURN,CR. E:SHIFT OUT,
    LOCKING-SHIFT ONE,SO. F:SHIFT IN,LOCKING-SHIFT ZERO,SI. 10:DATA LINK ESCAPE,DLE. 11:DEVICE
    CONTROL ONE,DC1. 12:DEVICE CONTROL TWO,DC2. 13:DEVICE CONTROL THREE,DC3. 14:DEVICE CONTROL FOUR,
    DC4. 15:NEGATIVE ACKNOWLEDGE,NAK. 16:SYNCHRONOUS IDLE,SYN. 17:END OF TRANSMISSION BLOCK,ETB.
    18:CANCEL,CAN. 19:END OF MEDIUM,EOM. 1A:SUBSTITUTE,SUB. 1B:ESCAPE,ESC. 1C:INFORMATION SEPARATOR
    FOUR,FILE SEPARATOR,FS. 1D:INFORMATION SEPARATOR THREE,GROUP SEPARATOR,GS. 1E:INFORMATION
    SEPARATOR TWO,RECORD SEPARATOR,RS. 1F:INFORMATION SEPARATOR ONE,UNIT SEPARATOR,US. 20:SP.
    7F:DELETE,DEL. 80:PADDING CHARACTER,PAD. 81:HIGH OCTET PRESET,HOP. 82:BREAK PERMITTED HERE,BPH.
    83:NO BREAK HERE,NBH. 84:INDEX,IND. 85:NEXT LINE,NEL. 86:START OF SELECTED AREA,SSA. 87:END OF
    SELECTED AREA,ESA. 88:CHARACTER TABULATION SET,HORIZONTAL TABULATION SET,HTS. 89:CHARACTER
    TABULATION WITH JUSTIFICATION,HORIZONTAL TABULATION WITH JUSTIFICATION,HTJ. 8A:LINE TABULATION
    SET,VERTICAL TABULATION SET,VTS. 8B:PARTIAL LINE FORWARD,PARTIAL LINE DOWN,PLD. 8C:PARTIAL LINE
    BACKWARD,PARTIAL LINE UP,PLU. 8D:REVERSE LINE FEED,REVERSE INDEX,RI. 8E:SINGLE SHIFT TWO,
    SINGLE-SHIFT-2,SS2. 8F:SINGLE SHIFT THREE,SINGLE-SHIFT-3,SS3. 90:DEVICE CONTROL STRING,DCS.
    91:PRIVATE USE ONE,PRIVATE USE-1,PU1. 92:PRIVATE USE TWO,PRIVATE USE-2,PU2. 93:SET TRANSMIT
    STATE,STS. 94:CANCEL CHARACTER,CCH. 95:MESSAGE WAITING,MW. 96:START OF GUARDED AREA,START OF
    PROTECTED AREA,SPA. 97:END OF GUARDED AREA,END OF PROTECTED AREA,EPA. 98:START OF STRING,SOS.
    99:SINGLE GRAPHIC CHARACTER INTRODUCER,SGC. 9A:SINGLE CHARACTER INTRODUCER,SCI. 9B:CONTROL
    SEQUENCE INTRODUCER,CSI. 9C:STRING TERMINATOR,ST. 9D:OPERATING SYSTEM COMMAND,OSC. 9E:PRIVACY
    MESSAGE,PM. 9F:APPLICATION PROGRAM COMMAND,APC. A0:NBSP. AD:SHY. 1A2:LATIN CAPITAL LETTER GHA.
    1A3:LATIN SMALL LETTER GHA. 34F:CGJ. 61C:ALM. 709:SYRIAC SUBLINEAR COLON SKEWED LEFT. CDE:KANNADA
    LETTER LLLA. E9D:LAO LETTER FO FON. E9F:LAO LETTER FO FAY. EA3:LAO LETTER RO. EA5:LAO LETTER LO.
    FD0:TIBETAN MARK BKA- SHOG GI MGO RGYAN. 11EC:HANGUL JONGSEONG YESIEUNG-KIYEOK. 11ED:HANGUL
    JONGSEONG YESIEUNG-SSANGKIYEOK. 11EE:HANGUL JONGSEONG SSANGYESIEUNG. 11EF:HANGUL JONGSEONG
    YESIEUNG-KHIEUKH. 180B:FVS1. 180C:FVS2. 180D:FVS3. 180E:MVS. 180F:FVS4. 200B:ZWSP. 200C:ZWNJ.
    200D:ZWJ. 200E:LRM. 200F:RLM. 202A:LRE. 202B:RLE. 202C:PDF. 202D:LRO. 202E:RLO. 202F:NNBSP.
    205F:MMSP. 2060:WJ. 2066:LRI. 2067:RLI. 2068:FSI. 2069:PDI. 2118:WEIERSTRASS ELLIPTIC FUNCTION.
    2448:MICR ON US SYMBOL. 2449:MICR DASH SYMBOL. 2B7A:LEFTWARDS TRIANGLE-HEADED ARROW WITH DOUBLE
    VERTICAL STROKE. 2B7C:RIGHTWARDS TRIANGLE-HEADED ARROW WITH DOUBLE VERTICAL STROKE. A015:YI
    SYLLABLE ITERATION MARK. AA6E:MYANMAR LETTER KHAMTI LLA. FE18:PRESENTATION FORM FOR VERTICAL
    RIGHT WHITE LENTICULAR BRACKET. FEFF:BYTE ORDER MARK,BOM,ZWNBSP. 122D4:CUNEIFORM SIGN NU11 TENU.
    122D5:CUNEIFORM SIGN NU11 OVER NU11 BUR OVER BUR. 16E56:MEDEFAIDRIN CAPITAL LETTER H.
    16E57:MEDEFAIDRIN CAPITAL LETTER NG. 16E76:MEDEFAIDRIN SMALL LETTER H. 16E77:MEDEFAIDRIN SMALL
    LETTER NG. 1B001:HENTAIGANA LETTER E-1. 1D0C5:BYZANTINE MUSICAL SYMBOL FTHORA SKLIRON CHROMA
    VASIS."

namespace Names

/-- The words of a piece of a table, with single blanks between them. -/
def piece (cs : List Char) : List Char :=
  List.intercalate [' '] (Ranges.words cs)

/-- A name from its beginning and the rest; a hyphen joins them directly. -/
def joined (stem rest : List Char) : List Char :=
  if stem.isEmpty then rest
  else if stem.getLast? == some '-' then stem ++ rest
  else stem ++ ' ' :: rest

/-- The code point with a name in a group. -/
def inGroup? (name group : List Char) : Option CodePoint :=
  match group.splitOnP (· == ':') with
  | [code, stem, rests] =>
    let stem := piece stem
    if stem.isPrefixOf name then
      ((rests.splitOnP (· == ',')).zipIdx.find? fun r => joined stem (piece r.1) == name).map
        fun r => Ranges.numeral (piece code) + r.2
    else none
  | _ => none

/-- The code point with a name in a table. -/
def inTable? (name : List Char) (table : String) : Option CodePoint :=
  (table.toList.splitOnP (· == '.')).findSome? (inGroup? name)

/-- The code point with a name among the further ones. -/
def inAliases? (name : List Char) : Option CodePoint :=
  (aliasNames.toList.splitOnP (· == '.')).findSome? fun group =>
    match group.splitOnP (· == ':') with
    | [code, names] =>
      if ((names.splitOnP (· == ',')).map piece).elem name then some (Ranges.numeral (piece code))
      else none
    | _ => none

/-- What follows the first text in the second. -/
def after? (start : String) (name : List Char) : Option (List Char) :=
  if start.toList.isPrefixOf name then some (name.drop start.length) else none

/-- The value of four or five hexadecimal digits. -/
def hexValue? (cs : List Char) : Option Nat :=
  if (cs.length == 4 || cs.length == 5) && cs.all (fun c => c.isDigit || ('A' ≤ c && c ≤ 'F')) then
    some (Ranges.numeral cs)
  else none

/-- The ideographs that are named by their code points. -/
def ideographs : Ranges :=
  [(0x3400, 0x4DBF), (0x4E00, 0x9FFF), (0x20000, 0x2A6DF), (0x2A700, 0x2B738), (0x2B740, 0x2B81D),
    (0x2B820, 0x2CEA1), (0x2CEB0, 0x2EBE0), (0x30000, 0x3134A)]

/-- The code point named by a text and its own digits, within ranges. -/
def numbered? (start : String) (within : Ranges) (name : List Char) : Option CodePoint := do
  let digits ← after? start name
  let c ← hexValue? digits
  if within.contains c then some c else none

/-- The leading consonants of syllables. -/
def leads : List String :=
  ["G", "GG", "N", "D", "DD", "R", "M", "B", "BB", "S", "SS", "", "J", "JJ", "C", "K", "T", "P", "H"]

/-- The vowels of syllables. -/
def vowels : List String :=
  ["A", "AE", "YA", "YAE", "EO", "E", "YEO", "YE", "O", "WA", "WAE", "OE", "YO", "U", "WEO", "WE", "WI",
    "YU", "EU", "YI", "I"]

/-- The trailing consonants of syllables, none first. -/
def trails : List String :=
  ["", "G", "GG", "GS", "N", "NJ", "NH", "D", "L", "LG", "LM", "LB", "LS", "LT", "LP", "LH", "M", "B",
    "BS", "S", "SS", "NG", "J", "C", "K", "T", "P", "H"]

/-- The syllable of a name. -/
def syllable? (name : List Char) : Option CodePoint := do
  let rest ← after? "HANGUL SYLLABLE " name
  leads.zipIdx.findSome? fun (l, i) => do
    let rest ← after? l rest
    vowels.zipIdx.findSome? fun (v, j) => do
      let rest ← after? v rest
      let k ← trails.findIdx? (·.toList == rest)
      some (0xAC00 + (i * 21 + j) * 28 + k)

/-- The variation selector with a short name. -/
def selector? (name : List Char) : Option CodePoint := do
  let digits ← after? "VS" name
  let n ← (String.ofList digits).toNat?
  if digits.head? == some '0' then none
  else if 1 ≤ n && n ≤ 16 then some (0xFE00 + (n - 1))
  else if 17 ≤ n && n ≤ 256 then some (0xE0100 + (n - 17))
  else none

/-- The code point with a name in capitals. -/
def capital? (name : List Char) : Option CodePoint :=
  (inTable? name alphabetsNames).or <| (inTable? name symbolsNames).or <|
    (inTable? name scriptsNames).or <| (inTable? name supplementNames).or <|
    (inAliases? name).or <| (selector? name).or <|
    (numbered? "CJK COMPATIBILITY IDEOGRAPH-"
      [(0xF900, 0xFA6D), (0xFA70, 0xFAD9), (0x2F800, 0x2FA1D)] name).or <|
    (numbered? "NUSHU CHARACTER-" [(0x1B170, 0x1B2FB)] name).or <|
    numbered? "KHITAN SMALL SCRIPT CHARACTER-" [(0x18B00, 0x18CD5)] name

end Names

/-- The code point with a name. -/
def named? (name : Text) : Option CodePoint := do
  let cs ← toChars? name
  (Names.syllable? cs).or <| (Names.numbered? "CJK UNIFIED IDEOGRAPH-" Names.ideographs cs).or <|
    Names.capital? (cs.map Char.toUpper)

end FluentRecords.Text
