import TypedRoutes.Text.Basic

/-!
Contract: letters with a mark of their own, and what they are made of.

Owns: the table of letters by mark, the rule for syllables that are made of two or three parts, and
both directions of either.
-/

set_option autoImplicit false

namespace TypedRoutes.Text

/-- By the code point of a mark: the letters that it can follow, and in the same order the single
letters that these make with it. -/
def markedLetters : List (Nat × String × String) :=
  [
    (0x300,
      "AEIOUaeiouÜüNnЕИеиĒēŌōWwÂâĂăÊêÔôƠơƯưYyἀἁἈἉἐἑἘἙἠἡἨἩἰἱἸἹὀὁὈὉὐὑὙὠὡὨὩαεηιουωΑΕΗϊ" ++
        "ΙϋΥΟΩ",
      "ÀÈÌÒÙàèìòùǛǜǸǹЀЍѐѝḔḕṐṑẀẁẦầẰằỀềỒồỜờỪừỲỳἂἃἊἋἒἓἚἛἢἣἪἫἲἳἺἻὂὃὊὋὒὓὛὢὣὪὫὰὲὴὶὸὺὼᾺῈῊῒ" ++
        "ῚῢῪῸῺ"),
    (0x301,
      "AEIOUYaeiouyCcLlNnRrSsZzÜüGgÅåÆæØøΑΕΗΙΟΥΩϊαεηιϋουωϒГКгкÇçĒēÏïKkMmÕõŌōPpŨũWwÂ" ++
        "âĂăÊêÔôƠơƯưἀἁἈἉἐἑἘἙἠἡἨἩἰἱἸἹὀὁὈὉὐὑὙὠὡὨὩ",
      "ÁÉÍÓÚÝáéíóúýĆćĹĺŃńŔŕŚśŹźǗǘǴǵǺǻǼǽǾǿΆΈΉΊΌΎΏΐάέήίΰόύώϓЃЌѓќḈḉḖḗḮḯḰḱḾḿṌṍṒṓṔṕṸṹẂẃẤ" ++
        "ấẮắẾếỐốỚớỨứἄἅἌἍἔἕἜἝἤἥἬἭἴἵἼἽὄὅὌὍὔὕὝὤὥὬὭ"),
    (0x302, "AEIOUaeiouCcGgHhJjSsWwYyZzẠạẸẹỌọ", "ÂÊÎÔÛâêîôûĈĉĜĝĤĥĴĵŜŝŴŵŶŷẐẑẬậỆệỘộ"),
    (0x303, "ANOanoIiUuVvÂâĂăEeÊêÔôƠơƯưYy", "ÃÑÕãñõĨĩŨũṼṽẪẫẴẵẼẽỄễỖỗỠỡỮữỸỹ"),
    (0x304,
      "AaEeIiOoUuÜüÄäȦȧÆæǪǫÖöÕõȮȯYyИиУуGgḶḷṚṛαΑιΙυΥ",
      "ĀāĒēĪīŌōŪūǕǖǞǟǠǡǢǣǬǭȪȫȬȭȰȱȲȳӢӣӮӯḠḡḸḹṜṝᾱᾹῑῙῡῩ"),
    (0x306, "AaEeGgIiOoUuУИиуЖжАаЕеȨȩẠạαΑιΙυΥ", "ĂăĔĕĞğĬĭŎŏŬŭЎЙйўӁӂӐӑӖӗḜḝẶặᾰᾸῐῘῠῨ"),
    (0x307,
      "CcEeGgIZzAaOoBbDdFfHhMmNnPpRrSsŚśŠšṢṣTtWwXxYyſ",
      "ĊċĖėĠġİŻżȦȧȮȯḂḃḊḋḞḟḢḣṀṁṄṅṖṗṘṙṠṡṤṥṦṧṨṩṪṫẆẇẊẋẎẏẛ"),
    (0x308,
      "AEIOUaeiouyYΙΥιυϒЕІеіАаӘәЖжЗзИиОоӨөЭэУуЧчЫыHhÕõŪūWwXxt",
      "ÄËÏÖÜäëïöüÿŸΪΫϊϋϔЁЇёїӒӓӚӛӜӝӞӟӤӥӦӧӪӫӬӭӰӱӴӵӸӹḦḧṎṏṺṻẄẅẌẍẗ"),
    (0x309, "AaÂâĂăEeÊêIiOoÔôƠơUuƯưYy", "ẢảẨẩẲẳẺẻỂểỈỉỎỏỔổỞởỦủỬửỶỷ"),
    (0x30a, "AaUuwy", "ÅåŮůẘẙ"),
    (0x30b, "OoUuУу", "ŐőŰűӲӳ"),
    (0x30c, "CcDdEeLlNnRrSsTtZzAaIiOoUuÜüGgKkƷʒjHh", "ČčĎďĚěĽľŇňŘřŠšŤťŽžǍǎǏǐǑǒǓǔǙǚǦǧǨǩǮǯǰȞȟ"),
    (0x30f, "AaEeIiOoRrUuѴѵ", "ȀȁȄȅȈȉȌȍȐȑȔȕѶѷ"),
    (0x311, "AaEeIiOoRrUu", "ȂȃȆȇȊȋȎȏȒȓȖȗ"),
    (0x313, "αΑεΕηΗιΙοΟυωΩρ", "ἀἈἐἘἠἨἰἸὀὈὐὠὨῤ"),
    (0x314, "αΑεΕηΗιΙοΟυΥωΩρΡ", "ἁἉἑἙἡἩἱἹὁὉὑὙὡὩῥῬ"),
    (0x31b, "OoUu", "ƠơƯư"),
    (0x323,
      "BbDdHhKkLlMmNnRrSsTtVvWwZzAaEeIiOoƠơUuƯưYy",
      "ḄḅḌḍḤḥḲḳḶḷṂṃṆṇṚṛṢṣṬṭṾṿẈẉẒẓẠạẸẹỊịỌọỢợỤụỰựỴỵ"),
    (0x324, "Uu", "Ṳṳ"),
    (0x325, "Aa", "Ḁḁ"),
    (0x326, "SsTt", "ȘșȚț"),
    (0x327, "CcGgKkLlNnRrSsTtEeDdHh", "ÇçĢģĶķĻļŅņŖŗŞşŢţȨȩḐḑḨḩ"),
    (0x328, "AaEeIiUuOo", "ĄąĘęĮįŲųǪǫ"),
    (0x32d, "DdEeLlNnTtUu", "ḒḓḘḙḼḽṊṋṰṱṶṷ"),
    (0x32e, "Hh", "Ḫḫ"),
    (0x330, "EeIiUu", "ḚḛḬḭṴṵ"),
    (0x331, "BbDdKkLlNnRrTtZzh", "ḆḇḎḏḴḵḺḻṈṉṞṟṮṯẔẕẖ"),
    (0x342, "ἀἁἈἉἠἡἨἩἰἱἸἹὐὑὙὠὡὨὩαηιϊυϋω", "ἆἇἎἏἦἧἮἯἶἷἾἿὖὗὟὦὧὮὯᾶῆῖῗῦῧῶ"),
    (0x345,
      "ἀἁἂἃἄἅἆἇἈἉἊἋἌἍἎἏἠἡἢἣἤἥἦἧἨἩἪἫἬἭἮἯὠὡὢὣὤὥὦὧὨὩὪὫὬὭὮὯὰαάᾶΑὴηήῆΗὼωώῶΩ",
      "ᾀᾁᾂᾃᾄᾅᾆᾇᾈᾉᾊᾋᾌᾍᾎᾏᾐᾑᾒᾓᾔᾕᾖᾗᾘᾙᾚᾛᾜᾝᾞᾟᾠᾡᾢᾣᾤᾥᾦᾧᾨᾩᾪᾫᾬᾭᾮᾯᾲᾳᾴᾷᾼῂῃῄῇῌῲῳῴῷῼ"),
    (0x653, "ا", "آ"),
    (0x654, "اويەہے", "أؤئۀۂۓ"),
    (0x655, "ا", "إ"),
    (0x93c, "नरळ", "ऩऱऴ"),
    (0x9be, "ে", "ো"),
    (0x9d7, "ে", "ৌ"),
    (0xb3e, "େ", "ୋ"),
    (0xb56, "େ", "ୈ"),
    (0xb57, "େ", "ୌ"),
    (0xbbe, "ெே", "ொோ"),
    (0xbd7, "ஒெ", "ஔௌ"),
    (0xc56, "ె", "ై"),
    (0xcc2, "ೆ", "ೊ"),
    (0xcd5, "ಿೆೊ", "ೀೇೋ"),
    (0xcd6, "ೆ", "ೈ"),
    (0xd3e, "െേ", "ൊോ"),
    (0xd57, "െ", "ൌ"),
    (0xdca, "ෙො", "ේෝ"),
    (0xdcf, "ෙ", "ො"),
    (0xddf, "ෙ", "ෞ"),
    (0x102e, "ဥ", "ဦ"),
    (0x1b35, "ᬅᬇᬉᬋᬍᬑᬺᬼᬾᬿᭂ", "ᬆᬈᬊᬌᬎᬒᬻᬽᭀᭁᭃ"),
    (0x3099,
      "かきくけこさしすせそたちつてとはひふへほうゝカキクケコサシスセソタチツテトハ" ++
        "ヒフヘホウワヰヱヲヽ",
      "がぎぐげござじずぜぞだぢづでどばびぶべぼゔゞガギグゲゴザジズゼゾダヂヅデドバ" ++
        "ビブベボヴヷヸヹヺヾ"),
    (0x309a, "はひふへほハヒフヘホ", "ぱぴぷぺぽパピプペポ"),
    (0x110ba, "𑂙𑂛𑂥", "𑂚𑂜𑂫"),
    (0x11127, "𑄱𑄲", "𑄮𑄯"),
    (0x1133e, "𑍇", "𑍋"),
    (0x11357, "𑍇", "𑍌"),
    (0x114b0, "𑒹", "𑒼"),
    (0x114ba, "𑒹", "𑒻"),
    (0x114bd, "𑒹", "𑒾"),
    (0x115af, "𑖸𑖹", "𑖺𑖻"),
    (0x11930, "𑤵", "𑤸")]

def markedLetter? (letter mark : Char) : Option Char :=
  markedLetters.findSome? fun (code, letters, marked) =>
    if code = mark.toNat then
      ((letters.toList.zip marked.toList).find? fun pair => pair.1 = letter).map (·.2)
    else none

def letterAndMark? (c : Char) : Option (Char × Char) :=
  markedLetters.findSome? fun (code, letters, marked) =>
    ((letters.toList.zip marked.toList).find? fun pair => pair.2 = c).map fun pair =>
      (pair.1, Char.ofNat code)

/-- The syllable that begins a block of syllables with the same first two parts. -/
def isOpenSyllable (code : Nat) : Bool :=
  0xac00 ≤ code && code < 0xac00 + 19 * 588 && (code - 0xac00) % 28 = 0

/-- The syllable that its first two parts make, or an open syllable and a last part. -/
def syllable? (first second : Char) : Option Char :=
  let code := first.toNat
  let next := second.toNat
  if 0x1100 ≤ code && code < 0x1100 + 19 && 0x1161 ≤ next && next < 0x1161 + 21 then
    some (Char.ofNat (0xac00 + (code - 0x1100) * 588 + (next - 0x1161) * 28))
  else if isOpenSyllable code && 0x11a8 ≤ next && next < 0x11a8 + 27 then
    some (Char.ofNat (code + (next - 0x11a7)))
  else none

def syllableParts? (c : Char) : Option (List Char) :=
  let code := c.toNat
  if 0xac00 ≤ code ∧ code < 0xac00 + 19 * 588 then
    let place := code - 0xac00
    let opening := [Char.ofNat (0x1100 + place / 588), Char.ofNat (0x1161 + place % 588 / 28)]
    some (if place % 28 = 0 then opening else opening ++ [Char.ofNat (0x11a7 + place % 28)])
  else none

def composed? (first second : Char) : Option Char :=
  (syllable? first second).orElse fun _ => markedLetter? first second

end TypedRoutes.Text
