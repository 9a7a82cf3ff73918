import Passbook.Text.CombiningClass
/-!
# Composition

A letter and a mark often stand for the same as one character.  A text is composed if such pairs are
written as one character wherever there is one, and its marks are in the order of their classes.  The
syllables of Hangul follow from the numbers of their letters, all other pairs are in a table.
-/

namespace Passbook.Text

/-- The second characters of pairs, each with first characters and, in the same order, what they make
up. -/
def compositions : List (Nat × String × String) :=
  [
    (0x0300, "AEIOUaeiouÜüNnЕИеиĒēŌōWwÂâĂăÊêÔôƠơƯưYy", "ÀÈÌÒÙàèìòùǛǜǸǹЀЍѐѝḔḕṐṑẀẁẦầẰằỀềỒồỜờỪừỲỳ"),
    (0x0300, "ἀἁἈἉἐἑἘἙἠἡἨἩἰἱἸἹὀὁὈὉὐὑὙὠὡὨὩαεηιουωΑΕΗ᾿", "ἂἃἊἋἒἓἚἛἢἣἪἫἲἳἺἻὂὃὊὋὒὓὛὢὣὪὫὰὲὴὶὸὺὼᾺῈῊ῍"),
    (0x0300, "ϊΙ῾ϋΥ¨ΟΩ", "ῒῚ῝ῢῪ῭ῸῺ"),
    (0x0301, "AEIOUYaeiouyCcLlNnRrSsZzÜüGgÅåÆæØø¨ΑΕΗ", "ÁÉÍÓÚÝáéíóúýĆćĹĺŃńŔŕŚśŹźǗǘǴǵǺǻǼǽǾǿ΅ΆΈΉ"),
    (0x0301, "ΙΟΥΩϊαεηιϋουωϒГКгкÇçĒēÏïKkMmÕõŌōPpŨũWw", "ΊΌΎΏΐάέήίΰόύώϓЃЌѓќḈḉḖḗḮḯḰḱḾḿṌṍṒṓṔṕṸṹẂẃ"),
    (0x0301, "ÂâĂăÊêÔôƠơƯưἀἁἈἉἐἑἘἙἠἡἨἩἰἱἸἹὀὁὈὉὐὑὙὠὡὨ", "ẤấẮắẾếỐốỚớỨứἄἅἌἍἔἕἜἝἤἥἬἭἴἵἼἽὄὅὌὍὔὕὝὤὥὬ"),
    (0x0301, "Ὡ᾿῾", "Ὥ῎῞"),
    (0x0302, "AEIOUaeiouCcGgHhJjSsWwYyZzẠạẸẹỌọ", "ÂÊÎÔÛâêîôûĈĉĜĝĤĥĴĵŜŝŴŵŶŷẐẑẬậỆệỘộ"),
    (0x0303, "ANOanoIiUuVvÂâĂăEeÊêÔôƠơƯưYy", "ÃÑÕãñõĨĩŨũṼṽẪẫẴẵẼẽỄễỖỗỠỡỮữỸỹ"),
    (0x0304, "AaEeIiOoUuÜüÄäȦȧÆæǪǫÖöÕõȮȯYyИиУуGgḶḷṚṛ", "ĀāĒēĪīŌōŪūǕǖǞǟǠǡǢǣǬǭȪȫȬȭȰȱȲȳӢӣӮӯḠḡḸḹṜṝ"),
    (0x0304, "αΑιΙυΥ", "ᾱᾹῑῙῡῩ"),
    (0x0306, "AaEeGgIiOoUuУИиуЖжАаЕеȨȩẠạαΑιΙυΥ", "ĂăĔĕĞğĬĭŎŏŬŭЎЙйўӁӂӐӑӖӗḜḝẶặᾰᾸῐῘῠῨ"),
    (0x0307, "CcEeGgIZzAaOoBbDdFfHhMmNnPpRrSsŚśŠšṢṣT", "ĊċĖėĠġİŻżȦȧȮȯḂḃḊḋḞḟḢḣṀṁṄṅṖṗṘṙṠṡṤṥṦṧṨṩṪ"),
    (0x0307, "tWwXxYyſ𐗒𐗚", "ṫẆẇẊẋẎẏẛ𐗉𐗤"),
    (0x0308, "AEIOUaeiouyYΙΥιυϒЕІеіАаӘәЖжЗзИиОоӨөЭэУ", "ÄËÏÖÜäëïöüÿŸΪΫϊϋϔЁЇёїӒӓӚӛӜӝӞӟӤӥӦӧӪӫӬӭӰ"),
    (0x0308, "уЧчЫыHhÕõŪūWwXxt", "ӱӴӵӸӹḦḧṎṏṺṻẄẅẌẍẗ"),
    (0x0309, "AaÂâĂăEeÊêIiOoÔôƠơUuƯưYy", "ẢảẨẩẲẳẺẻỂểỈỉỎỏỔổỞởỦủỬửỶỷ"), (0x030A, "AaUuwy", "ÅåŮůẘẙ"),
    (0x030B, "OoUuУу", "ŐőŰűӲӳ"),
    (0x030C, "CcDdEeLlNnRrSsTtZzAaIiOoUuÜüGgKkƷʒjHh", "ČčĎďĚěĽľŇňŘřŠšŤťŽžǍǎǏǐǑǒǓǔǙǚǦǧǨǩǮǯǰȞȟ"),
    (0x030F, "AaEeIiOoRrUuѴѵ", "ȀȁȄȅȈȉȌȍȐȑȔȕѶѷ"), (0x0311, "AaEeIiOoRrUu", "ȂȃȆȇȊȋȎȏȒȓȖȗ"),
    (0x0313, "αΑεΕηΗιΙοΟυωΩρ", "ἀἈἐἘἠἨἰἸὀὈὐὠὨῤ"), (0x0314, "αΑεΕηΗιΙοΟυΥωΩρΡ", "ἁἉἑἙἡἩἱἹὁὉὑὙὡὩῥῬ"),
    (0x031B, "OoUu", "ƠơƯư"),
    (0x0323, "BbDdHhKkLlMmNnRrSsTtVvWwZzAaEeIiOoƠơUu", "ḄḅḌḍḤḥḲḳḶḷṂṃṆṇṚṛṢṣṬṭṾṿẈẉẒẓẠạẸẹỊịỌọỢợỤụ"),
    (0x0323, "ƯưYy", "ỰựỴỵ"), (0x0324, "Uu", "Ṳṳ"), (0x0325, "Aa", "Ḁḁ"), (0x0326, "SsTt", "ȘșȚț"),
    (0x0327, "CcGgKkLlNnRrSsTtEeDdHh", "ÇçĢģĶķĻļŅņŖŗŞşŢţȨȩḐḑḨḩ"),
    (0x0328, "AaEeIiUuOo", "ĄąĘęĮįŲųǪǫ"), (0x032D, "DdEeLlNnTtUu", "ḒḓḘḙḼḽṊṋṰṱṶṷ"),
    (0x032E, "Hh", "Ḫḫ"), (0x0330, "EeIiUu", "ḚḛḬḭṴṵ"),
    (0x0331, "BbDdKkLlNnRrTtZzh", "ḆḇḎḏḴḵḺḻṈṉṞṟṮṯẔẕẖ"),
    (0x0338, "←→↔⇐⇔⇒∃∈∋∣∥∼≃≅≈=≡≍<>≤≥≲≳≶≷≺≻⊂⊃⊆⊇⊢⊨⊩⊫≼≽", "↚↛↮⇍⇎⇏∄∉∌∤∦≁≄≇≉≠≢≭≮≯≰≱≴≵≸≹⊀⊁⊄⊅⊈⊉⊬⊭⊮⊯⋠⋡"),
    (0x0338, "⊑⊒⊲⊳⊴⊵", "⋢⋣⋪⋫⋬⋭"),
    (0x0342, "ἀἁἈἉἠἡἨἩἰἱἸἹὐὑὙὠὡὨὩα¨η᾿ιϊ῾υϋω", "ἆἇἎἏἦἧἮἯἶἷἾἿὖὗὟὦὧὮὯᾶ῁ῆ῏ῖῗ῟ῦῧῶ"),
    (0x0345, "ἀἁἂἃἄἅἆἇἈἉἊἋἌἍἎἏἠἡἢἣἤἥἦἧἨἩἪἫἬἭἮἯὠὡὢὣὤὥ", "ᾀᾁᾂᾃᾄᾅᾆᾇᾈᾉᾊᾋᾌᾍᾎᾏᾐᾑᾒᾓᾔᾕᾖᾗᾘᾙᾚᾛᾜᾝᾞᾟᾠᾡᾢᾣᾤᾥ"),
    (0x0345, "ὦὧὨὩὪὫὬὭὮὯὰαάᾶΑὴηήῆΗὼωώῶΩ", "ᾦᾧᾨᾩᾪᾫᾬᾭᾮᾯᾲᾳᾴᾷᾼῂῃῄῇῌῲῳῴῷῼ"), (0x0653, "ا", "آ"),
    (0x0654, "اويەہے", "أؤئۀۂۓ"), (0x0655, "ا", "إ"), (0x093C, "नरळ", "ऩऱऴ"),
    (0x09BE, "\u09c7", "\u09cb"), (0x09D7, "\u09c7", "\u09cc"), (0x0B3E, "\u0b47", "\u0b4b"),
    (0x0B56, "\u0b47", "\u0b48"), (0x0B57, "\u0b47", "\u0b4c"),
    (0x0BBE, "\u0bc6\u0bc7", "\u0bca\u0bcb"), (0x0BD7, "ஒ\u0bc6", "ஔ\u0bcc"),
    (0x0C56, "\u0c46", "\u0c48"), (0x0CC2, "\u0cc6", "\u0cca"),
    (0x0CD5, "\u0cbf\u0cc6\u0cca", "\u0cc0\u0cc7\u0ccb"), (0x0CD6, "\u0cc6", "\u0cc8"),
    (0x0D3E, "\u0d46\u0d47", "\u0d4a\u0d4b"), (0x0D57, "\u0d46", "\u0d4c"),
    (0x0DCA, "\u0dd9\u0ddc", "\u0dda\u0ddd"), (0x0DCF, "\u0dd9", "\u0ddc"),
    (0x0DDF, "\u0dd9", "\u0dde"), (0x102E, "ဥ", "ဦ"),
    (0x1B35, "ᬅᬇᬉᬋᬍᬑ\u1b3a\u1b3c\u1b3e\u1b3f\u1b42", "ᬆᬈᬊᬌᬎᬒ\u1b3b\u1b3d\u1b40\u1b41\u1b43"),
    (0x3099, "かきくけこさしすせそたちつてとはひふへほうゝカキクケコサシスセソタチツテトハ", "がぎぐげござじずぜぞだぢづでどばびぶべぼゔゞガギグゲゴザジズゼゾダヂヅデドバ"),
    (0x3099, "ヒフヘホウワヰヱヲヽ", "ビブベボヴヷヸヹヺヾ"), (0x309A, "はひふへほハヒフヘホ", "ぱぴぷぺぽパピプペポ"),
    (0x110BA, "𑂙𑂛𑂥", "𑂚𑂜𑂫"), (0x11127, "𑄱𑄲", "𑄮𑄯"), (0x1133E, "𑍇", "𑍋"), (0x11357, "𑍇", "𑍌"),
    (0x113B8, "𑏂", "𑏇"), (0x113BB, "𑎄", "𑎅"), (0x113C2, "𑎎", "𑎎𑏅"), (0x113C9, "𑎂𑎐𑏂", "𑎃𑎑𑏈"),
    (0x114B0, "𑒹", "𑒼"), (0x114BA, "𑒹", "𑒻"), (0x114BD, "𑒹", "𑒾"), (0x115AF, "𑖸𑖹", "𑖺𑖻"),
    (0x11930, "𑤵", "𑤸"), (0x1611E, "𖄞", "𖄡"), (0x1611F, "𖄢𖄡𖄢", "𖄣𖄤𖄦𖄧"), (0x16120, "𖄡𖄞", "𖄥𖄨"),
    (0x16129, "𖄞", "𖄢"), (0x16D67, "𖵧𖵣𖵩", "𖵨𖵩𖵪")
  ]

/-! ### Hangul -/

def hangulBase : Nat := 0xAC00

def leadBase : Nat := 0x1100

def vowelBase : Nat := 0x1161

/-- What stands for no trailing consonant, one in front of the first. -/
def trailBase : Nat := 0x11A7

def leadCount : Nat := 19

def vowelCount : Nat := 21

/-- How many trailing consonants there are, none being one of them. -/
def trailCount : Nat := 28

def hangulIndex? (c : Char) : Option Nat :=
  if hangulBase ≤ c.toNat ∧ c.toNat < hangulBase + leadCount * vowelCount * trailCount then
    some (c.toNat - hangulBase)
  else
    none

/-- The syllable of a consonant and a vowel, or of a syllable without trailing consonant and one. -/
def composeHangul? (a b : Char) : Option Char :=
  if leadBase ≤ a.toNat ∧ a.toNat < leadBase + leadCount
      ∧ vowelBase ≤ b.toNat ∧ b.toNat < vowelBase + vowelCount then
    some (Char.ofNat
      (hangulBase + ((a.toNat - leadBase) * vowelCount + (b.toNat - vowelBase)) * trailCount))
  else if (hangulIndex? a).any (· % trailCount = 0)
      ∧ trailBase < b.toNat ∧ b.toNat < trailBase + trailCount then
    some (Char.ofNat (a.toNat + (b.toNat - trailBase)))
  else
    none

/-- The two characters that a syllable is composed of. -/
def splitHangul? (c : Char) : Option (Char × Char) :=
  (hangulIndex? c).map fun index =>
    if index % trailCount = 0 then
      let pair := index / trailCount
      (Char.ofNat (leadBase + pair / vowelCount), Char.ofNat (vowelBase + pair % vowelCount))
    else
      (Char.ofNat (c.toNat - index % trailCount), Char.ofNat (trailBase + index % trailCount))

/-! ### Pairs -/

/-- The character that a pair makes up. -/
def compose? (a b : Char) : Option Char :=
  (composeHangul? a b).or <| compositions.findSome? fun (second, firsts, composed) =>
    if b.toNat = second then
      ((firsts.toList.zip composed.toList).find? (·.1 = a)).map (·.2)
    else
      none

/-- The first character that is made up of others. -/
def firstComposed : Nat := 0xC0

/-- The pair that a character is made up of. -/
def split? (c : Char) : Option (Char × Char) :=
  if c.toNat < firstComposed then none
  else
    (splitHangul? c).or <| compositions.findSome? fun (second, firsts, composed) =>
      ((firsts.toList.zip composed.toList).find? (·.2 = c)).map fun pair =>
        (pair.1, Char.ofNat second)

/-- The most pairs that are within one another. -/
def pairDepth : Nat := 4

/-- A character with the pairs in it taken apart, up to a depth. -/
def decompose : (depth : Nat) → Char → List Char
  | 0, c => [c]
  | depth + 1, c =>
    match split? c with
    | some (a, b) => decompose depth a ++ [b]
    | none => [c]

/-! ### Texts -/

/-- Compose what follows a character.  `marks` are the marks behind it that have not become part of it,
nearest first; a further character can if it is of a higher class than they are. -/
def composeBehind (first : Char) (marks : List Char) : List Char → List Char
  | [] => first :: marks.reverse
  | c :: rest =>
    let isFree := marks.head?.all fun mark => combiningClass mark < combiningClass c
    match if isFree then compose? first c else none with
    | some composed => composeBehind composed marks rest
    | none =>
      if combiningClass c = 0 then first :: marks.reverse ++ composeBehind c [] rest
      else composeBehind first (c :: marks) rest

def composed (cs : List Char) : List Char :=
  let ordered := orderMarks (cs.flatMap (decompose pairDepth))
  let isLoose (c : Char) : Bool := combiningClass c != 0
  match ordered.dropWhile isLoose with
  | [] => ordered
  | first :: rest => ordered.takeWhile isLoose ++ composeBehind first [] rest

example : compose? 'A' '\u0300' = some '\u00c0' := by decide +kernel

example : splitHangul? '\ud55c' = some ('\ud558', '\u11ab') := by decide +kernel

end Passbook.Text
