import TypedRoutes.Text.Basic

/-!
Contract: characters that stand for plainer ones.

A ligature, a wide or raised letter, a letter of a mathematical script and a number of a script of
its own are used like the plain letters that they stand for. Letters with a mark that are written as
one only by exception are here as well.

Owns: the tables, for characters of identifiers that are not single letters with a mark or
syllables.
-/

set_option autoImplicit false

namespace TypedRoutes.Text

/-- By the code point of the first of them: the characters that characters in a row stand for, one
each. -/
def plainCharacters : List (Nat × String) :=
  [
    (0xaa, "a"),
    (0xb5, "μ"),
    (0xba, "o"),
    (0x17f, "s"),
    (0x2b0, "hɦjrɹɻʁwy"),
    (0x2e0, "ɣlsxʕ"),
    (0x340, "̀́"),
    (0x343, "̓"),
    (0x374, "ʹ"),
    (0x387, "·"),
    (0x3d0, "βθΥ"),
    (0x3d5, "φπ"),
    (0x3f0, "κρς"),
    (0x3f4, "Θε"),
    (0x3f9, "Σ"),
    (0x10fc, "ნ"),
    (0x1d2c, "AÆB"),
    (0x1d30, "DEƎGHIJKLMN"),
    (0x1d3c, "OȢPRTUWaɐɑᴂbdeəɛɜg"),
    (0x1d4f, "kmŋoɔᴖᴗptuᴝɯvᴥβγδφχiruvβγρφχ"),
    (0x1d78, "н"),
    (0x1d9b, "ɒcɕðɜfɟɡɥɨɩɪᵻʝɭᶅʟɱɰɲɳɴɵɸʂʃƫʉʊᴜʋʌzʐʑʒθ"),
    (0x1fbe, "ι"),
    (0x2071, "i"),
    (0x207f, "n"),
    (0x2090, "aeoxəhklmnpst"),
    (0x2102, "C"),
    (0x2107, "Ɛ"),
    (0x210a, "gHHHhħIILl"),
    (0x2115, "N"),
    (0x2119, "PQRRR"),
    (0x2124, "Z"),
    (0x2126, "Ω"),
    (0x2128, "Z"),
    (0x212a, "K"),
    (0x212c, "BC"),
    (0x212f, "eEF"),
    (0x2133, "Moאבגדi"),
    (0x213c, "πγΓΠ"),
    (0x2145, "Ddeij"),
    (0x2160, "I"),
    (0x2164, "V"),
    (0x2169, "X"),
    (0x216c, "LCDMi"),
    (0x2174, "v"),
    (0x2179, "x"),
    (0x217c, "lcdm"),
    (0x2c7c, "jV"),
    (0x2d6f, "ⵡ"),
    (0x3038, "十卄卅"),
    (0x3131,
      "ᄀᄁᆪᄂᆬᆭᄃᄄᄅᆰᆱᆲᆳᆴᆵᄚᄆᄇᄈᄡᄉᄊᄋᄌᄍᄎᄏᄐᄑ하ᅢᅣᅤᅥᅦᅧᅨᅩᅪᅫᅬᅭᅮᅯᅰᅱᅲᅳᅴᅵᅠᄔᄕ" ++
        "ᇇᇈᇌᇎᇓᇗᇙᄜᇝᇟᄝᄞᄠᄢᄣᄧᄩᄫᄬᄭᄮᄯᄲᄶᅀᅇᅌᇱᇲᅗᅘᅙᆄᆅᆈᆑᆒᆔᆞᆡ"),
    (0xa69c, "ъь"),
    (0xa770, "ꝯ"),
    (0xa7f2, "CFQ"),
    (0xa7f8, "Ħœ"),
    (0xab5c, "ꜧꬷɫꭒ"),
    (0xab69, "ʍ"),
    (0xf900,
      "豈更車賈滑串句龜龜契金喇奈懶癩羅蘿螺裸邏樂洛烙珞落酪駱亂卵欄爛蘭鸞嵐濫藍襤拉" ++
        "臘蠟廊朗浪狼郎來冷勞擄櫓爐盧老蘆虜路露魯鷺碌祿綠菉錄鹿論壟弄籠聾牢磊賂雷壘屢" ++
        "樓淚漏累縷陋勒肋凜凌稜綾菱陵讀拏樂諾丹寧怒率異北磻便復不泌數索參塞省葉說殺辰" ++
        "沈拾若掠略亮兩凉梁糧良諒量勵呂女廬旅濾礪閭驪麗黎力曆歷轢年憐戀撚漣煉璉秊練聯" ++
        "輦蓮連鍊列劣咽烈裂說廉念捻殮簾獵令囹寧嶺怜玲瑩羚聆鈴零靈領例禮醴隸惡了僚寮尿" ++
        "料樂燎療蓼遼龍暈阮劉杻柳流溜琉留硫紐類六戮陸倫崙淪輪律慄栗率隆利吏履易李梨泥" ++
        "理痢罹裏裡里離匿溺吝燐璘藺隣鱗麟林淋臨立笠粒狀炙識什茶刺切度拓糖宅洞暴輻行降" ++
        "見廓兀嗀"),
    (0xfa10, "塚"),
    (0xfa12, "晴"),
    (0xfa15, "凞猪益礼神祥福靖精羽"),
    (0xfa20, "蘒"),
    (0xfa22, "諸"),
    (0xfa25, "逸都"),
    (0xfa2a,
      "飯飼館鶴郞隷侮僧免勉勤卑喝嘆器塀墨層屮悔慨憎懲敏既暑梅海渚漢煮爫琢碑社祉祈祐" ++
        "祖祝禍禎穀突節練縉繁署者臭艹艹著褐視謁謹賓贈辶逸難響頻恵𤋮舘"),
    (0xfa70,
      "並况全侀充冀勇勺喝啕喙嗢塚墳奄奔婢嬨廒廙彩徭惘慎愈憎慠懲戴揄搜摒敖晴朗望杖歹" ++
        "殺流滛滋漢瀞煮瞧爵犯猪瑱甆画瘝瘟益盛直睊着磌窱節类絛練缾者荒華蝹襁覆視調諸請" ++
        "謁諾諭謹變贈輸遲醙鉶陼難靖韛響頋頻鬒龜𢡊𢡄𣏕㮝䀘䀹𥉉𥳐𧻓齃龎"),
    (0xfb20, "עאדהכלםרת"),
    (0xfb50,
      "ٱٱٻٻٻٻپپپپڀڀڀڀٺٺٺٺٿٿٿٿٹٹٹٹڤڤڤڤڦڦڦڦڄڄڄڄڃڃڃڃچچچچڇڇڇڇڍڍڌڌڎڎڈڈژژڑڑککککگگگگڳڳڳڳڱڱ" ++
        "ڱڱںںڻڻڻڻ"),
    (0xfba6, "ہہہہھھھھےے"),
    (0xfbd3, "ڭڭڭڭۇۇۆۆۈۈ"),
    (0xfbde, "ۋۋۅۅۉۉېېېېىى"),
    (0xfbfc, "یییی"),
    (0xfe33, "__"),
    (0xfe4d, "___"),
    (0xfe80, "ء"),
    (0xfe8d,
      "ااببببةةتتتتثثثثججججححححخخخخددذذررززسسسسششششصصصصضضضضططططظظظظععععغغغغففففقققق" ++
        "ككككللللممممننننههههووىىيييي"),
    (0xff10, "0123456789"),
    (0xff21, "ABCDEFGHIJKLMNOPQRSTUVWXYZ"),
    (0xff3f, "_"),
    (0xff41, "abcdefghijklmnopqrstuvwxyz"),
    (0xff66,
      "ヲァィゥェォャュョッーアイウエオカキクケコサシスセソタチツテトナニヌネノハヒ" ++
        "フヘホマミムメモヤユヨラリルレロワン゙゚ᅠᄀᄁᆪᄂᆬᆭᄃᄄᄅᆰᆱᆲᆳᆴᆵᄚᄆᄇᄈᄡᄉᄊ" ++
        "ᄋᄌᄍᄎᄏᄐᄑᄒ"),
    (0xffc2, "ᅡᅢᅣᅤᅥᅦ"),
    (0xffca, "ᅧᅨᅩᅪᅫᅬ"),
    (0xffd2, "ᅭᅮᅯᅰᅱᅲ"),
    (0xffda, "ᅳᅴᅵ"),
    (0x10781, "ːˑæʙɓ"),
    (0x10787, "ʣꭦʥʤɖɗᶑɘɞʩɤɢɠʛħʜɧʄʪʫɬ𝼄ꞎɮ𝼅ʎ𝼆øɶɷqɺ𝼈ɽɾʀʨʦꭧʧʈⱱ"),
    (0x107b2, "ʏʡʢʘǀǁǂ𝼊𝼞"),
    (0x1d400,
      "ABCDEFGHIJKLMNOPQRSTUVWXYZabcdefghijklmnopqrstuvwxyzABCDEFGHIJKLMNOPQRSTUVWX" ++
        "YZabcdefg"),
    (0x1d456, "ijklmnopqrstuvwxyzABCDEFGHIJKLMNOPQRSTUVWXYZabcdefghijklmnopqrstuvwxyzA"),
    (0x1d49e, "CD"),
    (0x1d4a2, "G"),
    (0x1d4a5, "JK"),
    (0x1d4a9, "NOPQ"),
    (0x1d4ae, "STUVWXYZabcd"),
    (0x1d4bb, "f"),
    (0x1d4bd, "hijklmn"),
    (0x1d4c5, "pqrstuvwxyzABCDEFGHIJKLMNOPQRSTUVWXYZabcdefghijklmnopqrstuvwxyzAB"),
    (0x1d507, "DEFG"),
    (0x1d50d, "JKLMNOPQ"),
    (0x1d516, "STUVWXY"),
    (0x1d51e, "abcdefghijklmnopqrstuvwxyzAB"),
    (0x1d53b, "DEFG"),
    (0x1d540, "IJKLM"),
    (0x1d546, "O"),
    (0x1d54a, "STUVWXY"),
    (0x1d552,
      "abcdefghijklmnopqrstuvwxyzABCDEFGHIJKLMNOPQRSTUVWXYZabcdefghijklmnopqrstuvwx" ++
        "yzABCDEFGHIJKLMNOPQRSTUVWXYZabcdefghijklmnopqrstuvwxyzABCDEFGHIJKLMNOPQRSTUV" ++
        "WXYZabcdefghijklmnopqrstuvwxyzABCDEFGHIJKLMNOPQRSTUVWXYZabcdefghijklmnopqrst" ++
        "uvwxyzABCDEFGHIJKLMNOPQRSTUVWXYZabcdefghijklmnopqrstuvwxyzABCDEFGHIJKLMNOPQR" ++
        "STUVWXYZabcdefghijklmnopqrstuvwxyzıȷ"),
    (0x1d6a8, "ΑΒΓΔΕΖΗΘΙΚΛΜΝΞΟΠΡΘΣΤΥΦΧΨΩ"),
    (0x1d6c2, "αβγδεζηθικλμνξοπρςστυφχψω"),
    (0x1d6dc, "εθκφρπΑΒΓΔΕΖΗΘΙΚΛΜΝΞΟΠΡΘΣΤΥΦΧΨΩ"),
    (0x1d6fc, "αβγδεζηθικλμνξοπρςστυφχψω"),
    (0x1d716, "εθκφρπΑΒΓΔΕΖΗΘΙΚΛΜΝΞΟΠΡΘΣΤΥΦΧΨΩ"),
    (0x1d736, "αβγδεζηθικλμνξοπρςστυφχψω"),
    (0x1d750, "εθκφρπΑΒΓΔΕΖΗΘΙΚΛΜΝΞΟΠΡΘΣΤΥΦΧΨΩ"),
    (0x1d770, "αβγδεζηθικλμνξοπρςστυφχψω"),
    (0x1d78a, "εθκφρπΑΒΓΔΕΖΗΘΙΚΛΜΝΞΟΠΡΘΣΤΥΦΧΨΩ"),
    (0x1d7aa, "αβγδεζηθικλμνξοπρςστυφχψω"),
    (0x1d7c4, "εθκφρπϜϝ"),
    (0x1d7ce, "01234567890123456789012345678901234567890123456789"),
    (0x1e030, "абвгдежзиклмопрстуфхцчшыэюꚉәіјөүӏабвгдежзиклопсуфхцчшъыґіѕџҫꙑұ"),
    (0x1ee00, "ابجد"),
    (0x1ee05, "وزحطيكلمنسعفصقرشتثخذضظغٮںڡٯ"),
    (0x1ee21, "بج"),
    (0x1ee24, "ه"),
    (0x1ee27, "ح"),
    (0x1ee29, "يكلمنسعفصق"),
    (0x1ee34, "شتثخ"),
    (0x1ee39, "ض"),
    (0x1ee3b, "غ"),
    (0x1ee42, "ج"),
    (0x1ee47, "ح"),
    (0x1ee49, "ي"),
    (0x1ee4b, "ل"),
    (0x1ee4d, "نسع"),
    (0x1ee51, "صق"),
    (0x1ee54, "ش"),
    (0x1ee57, "خ"),
    (0x1ee59, "ض"),
    (0x1ee5b, "غ"),
    (0x1ee5d, "ں"),
    (0x1ee5f, "ٯ"),
    (0x1ee61, "بج"),
    (0x1ee64, "ه"),
    (0x1ee67, "حطيك"),
    (0x1ee6c, "منسعفصق"),
    (0x1ee74, "شتثخ"),
    (0x1ee79, "ضظغٮ"),
    (0x1ee7e, "ڡ"),
    (0x1ee80, "ابجدهوزحطي"),
    (0x1ee8b, "لمنسعفصقرشتثخذضظغ"),
    (0x1eea1, "بجد"),
    (0x1eea5, "وزحطي"),
    (0x1eeab, "لمنسعفصقرشتثخذضظغ"),
    (0x1fbf0, "0123456789"),
    (0x2f800,
      "丽丸乁𠄢你侮侻倂偺備僧像㒞𠘺免兔兤具𠔜㒹內再𠕋冗冤仌冬况𩇟凵刃㓟刻剆割剷㔕勇" ++
        "勉勤勺包匆北卉卑博即卽卿卿卿𠨬灰及叟𠭣叫叱吆咞吸呈周咢哶唐啓啣善善喙喫喳嗂圖" ++
        "嘆圗噑噴切壮城埴堍型堲報墬𡓤売壷夆多夢奢𡚨𡛪姬娛娧姘婦㛮㛼嬈嬾嬾𡧈寃寘寧寳𡬘" ++
        "寿将当尢㞁屠屮峀岍𡷤嵃𡷦嵮嵫嵼巡巢㠯巽帨帽幩㡢𢆃㡼庰庳庶廊𪎒廾𢌱𢌱舁弢弢㣇𣊸" ++
        "𦇚形彫㣣徚忍志忹悁㤺㤜悔𢛔惇慈慌慎慌慺憎憲憤憯懞懲懶成戛扝抱拔捐𢬌挽拼捨掃揤" ++
        "𢯱搢揅掩㨮摩摾撝摷㩬敏敬𣀊旣書晉㬙暑㬈㫤冒冕最暜肭䏙朗望朡杞杓𣏃㭉柺枅桒梅𣑭" ++
        "梎栟椔㮝楂榣槪檨𣚣櫛㰘次𣢧歔㱎歲殟殺殻𣪍𡴋𣫺汎𣲼沿泍汧洖派海流浩浸涅𣴞洴港湮" ++
        "㴳滋滇𣻑淹潮𣽞𣾎濆瀹瀞瀛㶖灊災灷炭𠔥煅𤉣熜𤎫爨爵牐𤘈犀犕𤜵𤠔獺王㺬玥㺸㺸瑇瑜" ++
        "瑱璅瓊㼛甤𤰶甾𤲒異𢆟瘐𤾡𤾸𥁄㿼䀈直𥃳𥃲𥄙𥄳眞真真睊䀹瞋䁆䂖𥐝硎碌磌䃣𥘦祖𥚚𥛅" ++
        "福秫䄯穀穊穏𥥼𥪧𥪧竮䈂𥮫篆築䈧𥲀糒䊠糨糣紀𥾆絣䌁緇縂繅䌴𦈨𦉇䍙𦋙罺𦌾羕翺者𦓚" ++
        "𦔣聠𦖨聰𣍟䏕育脃䐋脾媵𦞧𦞵𣎓𣎜舁舄辞䑫芑芋芝劳花芳芽苦𦬼若茝荣莭茣莽菧著荓菊" ++
        "菌菜𦰶𦵫𦳕䔫蓱蓳蔖𧏊蕤𦼬䕝䕡𦾱𧃒䕫虐虜虧虩蚩蚈蜎蛢蝹蜨蝫螆䗗蟡蠁䗹衠衣𧙧裗裞" ++
        "䘵裺㒻𧢮𧥦䚾䛇誠諭變豕𧲨貫賁贛起𧼯𠠄跋趼跰𠣞軔輸𨗒𨗭邔郱鄑𨜮鄛鈸鋗鋘鉼鏹鐕𨯺" ++
        "開䦕閷𨵷䧦雃嶲霣𩅅𩈚䩮䩶韠𩐊䪲𩒖頋頋頩𩖶飢䬳餩馧駂駾䯎𩬰鬒鱀鳽䳎䳭鵧𪃎䳸𪄅𪈎" ++
        "𪊑麻䵖黹黾鼅鼏鼖鼻𪘀")]

/-- By the code point of the first of them: the texts that characters in a row stand for, with a
blank between them. -/
def plainTexts : List (Nat × String) :=
  [
    (0x132, "IJ ij"),
    (0x13f, "L· l·"),
    (0x149, "ʼn"),
    (0x1c4, "DŽ Dž dž LJ Lj lj NJ Nj nj"),
    (0x1f1, "DZ Dz dz"),
    (0x344, "̈́"),
    (0x587, "եւ"),
    (0x675, "اٴ وٴ ۇٴ يٴ"),
    (0x958, "क़ ख़ ग़ ज़ ड़ ढ़ फ़ य़"),
    (0x9dc, "ড় ঢ়"),
    (0x9df, "য়"),
    (0xa33, "ਲ਼"),
    (0xa36, "ਸ਼"),
    (0xa59, "ਖ਼ ਗ਼ ਜ਼"),
    (0xa5e, "ਫ਼"),
    (0xb5c, "ଡ଼ ଢ଼"),
    (0xe33, "ํา"),
    (0xeb3, "ໍາ"),
    (0xedc, "ຫນ ຫມ"),
    (0xf43, "གྷ"),
    (0xf4d, "ཌྷ"),
    (0xf52, "དྷ"),
    (0xf57, "བྷ"),
    (0xf5c, "ཛྷ"),
    (0xf69, "ཀྵ"),
    (0xf73, "ཱི"),
    (0xf75, "ཱུ ྲྀ ྲཱྀ ླྀ ླཱྀ"),
    (0xf81, "ཱྀ"),
    (0xf93, "ྒྷ"),
    (0xf9d, "ྜྷ"),
    (0xfa2, "ྡྷ"),
    (0xfa7, "ྦྷ"),
    (0xfac, "ྫྷ"),
    (0xfb9, "ྐྵ"),
    (0x1e9a, "aʾ"),
    (0x1f71, "ά"),
    (0x1f73, "έ"),
    (0x1f75, "ή"),
    (0x1f77, "ί"),
    (0x1f79, "ό"),
    (0x1f7b, "ύ"),
    (0x1f7d, "ώ"),
    (0x1fbb, "Ά"),
    (0x1fc9, "Έ"),
    (0x1fcb, "Ή"),
    (0x1fd3, "ΐ"),
    (0x1fdb, "Ί"),
    (0x1fe3, "ΰ"),
    (0x1feb, "Ύ"),
    (0x1ff9, "Ό"),
    (0x1ffb, "Ώ"),
    (0x212b, "Å"),
    (0x2161, "II III IV"),
    (0x2165, "VI VII VIII IX"),
    (0x216a, "XI XII"),
    (0x2171, "ii iii iv"),
    (0x2175, "vi vii viii ix"),
    (0x217a, "xi xii"),
    (0x309f, "より"),
    (0x30ff, "コト"),
    (0xfb00, "ff fi fl ffi ffl st st"),
    (0xfb13, "մն մե մի վն մխ"),
    (0xfb1d, "יִ"),
    (0xfb1f, "ײַ"),
    (0xfb2a, "שׁ שׂ שּׁ שּׂ אַ אָ אּ בּ גּ דּ הּ וּ זּ"),
    (0xfb38, "טּ יּ ךּ כּ לּ"),
    (0xfb3e, "מּ"),
    (0xfb40, "נּ סּ"),
    (0xfb43, "ףּ פּ"),
    (0xfb46, "צּ קּ רּ שּ תּ וֹ בֿ כֿ פֿ אל"),
    (0xfba4, "ۀ ۀ"),
    (0xfbb0, "ۓ ۓ"),
    (0xfbdd, "ۇٴ"),
    (0xfbea, "ئا ئا ئە ئە ئو ئو ئۇ ئۇ ئۆ ئۆ ئۈ ئۈ ئې ئې ئې ئى ئى ئى"),
    (0xfc00,
      "ئج ئح ئم ئى ئي بج بح بخ بم بى بي تج تح تخ تم تى تي ثج ثم ثى ثي جح جم حج" ++
        " حم خج خح خم سج سح سخ سم صح صم ضج ضح ضخ ضم طح طم ظم عج عم غج غم فج فح فخ فم " ++
        "فى في قح قم قى قي كا كج كح كخ كل كم كى كي لج لح لخ لم لى لي مج مح مخ مم مى م" ++
        "ي نج نح نخ نم نى ني هج هم هى هي يج يح يخ يم يى يي ذٰ رٰ ىٰ"),
    (0xfc64,
      "ئر ئز ئم ئن ئى ئي بر بز بم بن بى بي تر تز تم تن تى تي ثر ثز ثم ثن ثى ث" ++
        "ي فى في قى قي كا كل كم كى كي لم لى لي ما مم نر نز نم نن نى ني ىٰ ير يز يم ين" ++
        " يى يي ئج ئح ئخ ئم ئه بج بح بخ بم به تج تح تخ تم ته ثم جح جم حج حم خج خ" ++
        "م سج سح سخ سم صح صخ صم ضج ضح ضخ ضم طح ظم عج عم غج غم فج فح فخ فم قح قم كج كح" ++
        " كخ كل كم لج لح لخ لم له مج مح مخ مم نج نح نخ نم نه هج هم هٰ يج يح يخ يم يه " ++
        "ئم ئه بم به تم ته ثم ثه سم سه شم شه كل كم لم نم نه يم يه ـَّ ـُّ ـِّ طى طي" ++
        " عى عي غى غي سى سي شى شي حى حي جى جي خى خي صى صي ضى ضي شج شح شخ شم شر سر صر " ++
        "ضر طى طي عى عي غى غي سى سي شى شي حى حي جى جي خى خي صى صي ضى ضي شج شح شخ شم ش" ++
        "ر سر صر ضر شج شح شخ شم سه شه طم سج سح سخ شج شح شخ طم ظم اً اً"),
    (0xfd50,
      "تجم تحج تحج تحم تخم تمج تمح تمخ جمح جمح حمي حمى سحج سجح سجى سمح سمح سمج سمم " ++
        "سمم صحح صحح صمم شحم شحم شجي شمخ شمخ شمم شمم ضحى ضخم ضخم طمح طمح طمم طمي عجم " ++
        "عمم عمم عمى غمم غمي غمى فخم فخم قمح قمم لحم لحي لحى لجج لجج لخم لخم لمح لمح " ++
        "محج محم محي مجح مجم مخج مخم"),
    (0xfd92,
      "مجخ همج همم نحم نحى نجم نجم نجى نمي نمى يمم يمم بخي تجي تجى تخي تخى تمي تمى " ++
        "جمي جحى جمى سخى صحي شحي ضحي لجي لمي يحي يجي يمي ممي قمي نحي قمح لحم عمي كمي " ++
        "نجح مخي لجم كمم لجم نجح جحي حجي مجي فمي بحي كمم عجم صمم سخي نجي"),
    (0xfdf0, "صلے قلے الله اكبر محمد صلعم رسول عليه وسلم صلى"),
    (0xfe71, "ـً"),
    (0xfe77, "ـَ"),
    (0xfe79, "ـُ"),
    (0xfe7b, "ـِ"),
    (0xfe7d, "ـّ"),
    (0xfe7f, "ـْ"),
    (0xfe81, "آ آ أ أ ؤ ؤ إ إ ئ ئ ئ ئ"),
    (0xfef5, "لآ لآ لأ لأ لإ لإ لا لا")]

def plainForm? (c : Char) : Option (List Char) :=
  let code := c.toNat
  (plainCharacters.findSome? fun (first, plain) =>
      if first ≤ code then (plain.toList[code - first]?).map ([·]) else none).orElse fun _ =>
    plainTexts.findSome? fun (first, plain) =>
      if first ≤ code then ((plain.splitOn " ")[code - first]?).map String.toList else none

end TypedRoutes.Text
