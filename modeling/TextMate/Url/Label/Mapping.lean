import TextMate.Url.DomainLetter

/-!
What characters stand for in a domain name: capitals for small letters, variants of a character for
the character itself, and some for nothing. The characters that names are made of stand for
themselves.
-/
namespace TextMate.Url.Label

/-- Ranges of characters that have no meaning in a name, both ends included. -/
def uncounted : List (Nat × Nat) :=
  [(0xad, 0xad), (0x34f, 0x34f), (0x115f, 0x1160), (0x17b4, 0x17b5), (0x180b, 0x180f),
    (0x200b, 0x200b), (0x2060, 0x2064), (0x206a, 0x206f), (0x3164, 0x3164), (0xfe00, 0xfe0f),
    (0xfeff, 0xfeff), (0xffa0, 0xffa0), (0x1bca0, 0x1bca3), (0x1d173, 0x1d17a), (0xe0100, 0xe01ef)]

/-- Ranges of which every second character stands for the one after it. -/
def alternatingCapitals : List (Nat × Nat) :=
  [(0x100, 0x12e), (0x134, 0x136), (0x139, 0x13d), (0x141, 0x147), (0x14a, 0x176), (0x179, 0x17d),
    (0x182, 0x184), (0x1a0, 0x1a4), (0x1b3, 0x1b5), (0x1cd, 0x1db), (0x1de, 0x1ee), (0x1f8, 0x21e),
    (0x222, 0x232), (0x246, 0x24e), (0x370, 0x372), (0x3d8, 0x3ee), (0x460, 0x480), (0x48a, 0x4be),
    (0x4c1, 0x4cd), (0x4d0, 0x52e), (0x1e00, 0x1e94), (0x1ea0, 0x1efe), (0x2c67, 0x2c6b),
    (0x2c80, 0x2ce2), (0x2ceb, 0x2ced), (0xa640, 0xa66c), (0xa680, 0xa69a), (0xa722, 0xa72e),
    (0xa732, 0xa76e), (0xa779, 0xa77b), (0xa77e, 0xa786), (0xa790, 0xa792), (0xa796, 0xa7a8),
    (0xa7b4, 0xa7c2), (0xa7c7, 0xa7c9), (0xa7cc, 0xa7da)]

/-- Ranges of characters, each with the first of the characters that they stand for in order. -/
def moved : List (Nat × Nat × Nat) :=
  [(0xc0, 0xd6, 0xe0), (0xd8, 0xde, 0xf8), (0x391, 0x3a1, 0x3b1), (0x3a3, 0x3ab, 0x3c3),
    (0x400, 0x40f, 0x450), (0x410, 0x42f, 0x430), (0x531, 0x556, 0x561), (0x10a0, 0x10c5, 0x2d00),
    (0x13f8, 0x13fd, 0x13f0), (0x1c90, 0x1cba, 0x10d0), (0x1d33, 0x1d3a, 0x67),
    (0x1dae, 0x1db1, 0x272), (0x1f08, 0x1f0f, 0x1f00), (0x1f18, 0x1f1d, 0x1f10),
    (0x1f28, 0x1f2f, 0x1f20), (0x1f38, 0x1f3f, 0x1f30), (0x1f48, 0x1f4d, 0x1f40),
    (0x1f68, 0x1f6f, 0x1f60), (0x2074, 0x2079, 0x34), (0x2080, 0x2089, 0x30),
    (0x2096, 0x2099, 0x6b), (0x2135, 0x2138, 0x5d0), (0x2460, 0x2468, 0x31), (0x24b6, 0x24cf, 0x61),
    (0x24d0, 0x24e9, 0x61), (0x2c00, 0x2c2f, 0x2c30), (0x313a, 0x313f, 0x11b0),
    (0x3145, 0x314e, 0x1109), (0x314f, 0x3163, 0x1161), (0x3178, 0x317c, 0x112b),
    (0x3269, 0x326d, 0x110e), (0x32e4, 0x32e9, 0x30ca), (0x32ee, 0x32f2, 0x30de),
    (0x32f5, 0x32fa, 0x30e8), (0x32fb, 0x32fe, 0x30ef), (0xab70, 0xabbf, 0x13a0),
    (0xfe41, 0xfe44, 0x300c), (0xff01, 0xff20, 0x21), (0xff21, 0xff3a, 0x61),
    (0xff3b, 0xff5e, 0x5b), (0xff85, 0xff8a, 0x30ca), (0xff8f, 0xff93, 0x30de),
    (0xff96, 0xff9b, 0x30e8), (0xffaa, 0xffaf, 0x11b0), (0xffb5, 0xffbe, 0x1109),
    (0xffc2, 0xffc7, 0x1161), (0xffca, 0xffcf, 0x1167), (0xffd2, 0xffd7, 0x116d),
    (0xffe9, 0xffec, 0x2190), (0x10400, 0x10427, 0x10428), (0x104b0, 0x104d3, 0x104d8),
    (0x10570, 0x1057a, 0x10597), (0x1057c, 0x1058a, 0x105a3), (0x1058c, 0x10592, 0x105b3),
    (0x10c80, 0x10cb2, 0x10cc0), (0x10d50, 0x10d65, 0x10d70), (0x118a0, 0x118bf, 0x118c0),
    (0x16e40, 0x16e5f, 0x16e60), (0x16ea0, 0x16eb8, 0x16ebb), (0x1ccd6, 0x1ccef, 0x61),
    (0x1ccf0, 0x1ccf9, 0x30), (0x1d400, 0x1d419, 0x61), (0x1d41a, 0x1d433, 0x61),
    (0x1d434, 0x1d44d, 0x61), (0x1d44e, 0x1d454, 0x61), (0x1d456, 0x1d467, 0x69),
    (0x1d468, 0x1d481, 0x61), (0x1d482, 0x1d49b, 0x61), (0x1d4a9, 0x1d4ac, 0x6e),
    (0x1d4ae, 0x1d4b5, 0x73), (0x1d4b6, 0x1d4b9, 0x61), (0x1d4bd, 0x1d4c3, 0x68),
    (0x1d4c5, 0x1d4cf, 0x70), (0x1d4d0, 0x1d4e9, 0x61), (0x1d4ea, 0x1d503, 0x61),
    (0x1d507, 0x1d50a, 0x64), (0x1d50d, 0x1d514, 0x6a), (0x1d516, 0x1d51c, 0x73),
    (0x1d51e, 0x1d537, 0x61), (0x1d53b, 0x1d53e, 0x64), (0x1d540, 0x1d544, 0x69),
    (0x1d54a, 0x1d550, 0x73), (0x1d552, 0x1d56b, 0x61), (0x1d56c, 0x1d585, 0x61),
    (0x1d586, 0x1d59f, 0x61), (0x1d5a0, 0x1d5b9, 0x61), (0x1d5ba, 0x1d5d3, 0x61),
    (0x1d5d4, 0x1d5ed, 0x61), (0x1d5ee, 0x1d607, 0x61), (0x1d608, 0x1d621, 0x61),
    (0x1d622, 0x1d63b, 0x61), (0x1d63c, 0x1d655, 0x61), (0x1d656, 0x1d66f, 0x61),
    (0x1d670, 0x1d689, 0x61), (0x1d68a, 0x1d6a3, 0x61), (0x1d6a8, 0x1d6b8, 0x3b1),
    (0x1d6ba, 0x1d6c0, 0x3c3), (0x1d6c2, 0x1d6d2, 0x3b1), (0x1d6d4, 0x1d6da, 0x3c3),
    (0x1d6e2, 0x1d6f2, 0x3b1), (0x1d6f4, 0x1d6fa, 0x3c3), (0x1d6fc, 0x1d70c, 0x3b1),
    (0x1d70e, 0x1d714, 0x3c3), (0x1d71c, 0x1d72c, 0x3b1), (0x1d72e, 0x1d734, 0x3c3),
    (0x1d736, 0x1d746, 0x3b1), (0x1d748, 0x1d74e, 0x3c3), (0x1d756, 0x1d766, 0x3b1),
    (0x1d768, 0x1d76e, 0x3c3), (0x1d770, 0x1d780, 0x3b1), (0x1d782, 0x1d788, 0x3c3),
    (0x1d790, 0x1d7a0, 0x3b1), (0x1d7a2, 0x1d7a8, 0x3c3), (0x1d7aa, 0x1d7ba, 0x3b1),
    (0x1d7bc, 0x1d7c2, 0x3c3), (0x1d7ce, 0x1d7d7, 0x30), (0x1d7d8, 0x1d7e1, 0x30),
    (0x1d7e2, 0x1d7eb, 0x30), (0x1d7ec, 0x1d7f5, 0x30), (0x1d7f6, 0x1d7ff, 0x30),
    (0x1e030, 0x1e038, 0x430), (0x1e03c, 0x1e046, 0x43e), (0x1e051, 0x1e059, 0x430),
    (0x1e05f, 0x1e064, 0x443), (0x1e900, 0x1e921, 0x1e922), (0x1ee0a, 0x1ee0d, 0x643),
    (0x1ee2a, 0x1ee2d, 0x643), (0x1f130, 0x1f149, 0x61), (0x1fbf0, 0x1fbf9, 0x30)]

/-- Ranges of characters with the characters that they stand for, one by one. -/
def replaced : List (Nat × Nat × String) :=
  [(0xa0, 0xa0, " "), (0xaa, 0xaa, "a"), (0xb2, 0xb3, "23"), (0xb5, 0xb5, "μ"), (0xb9, 0xba, "1o"),
    (0x178, 0x178, "ÿ"), (0x17f, 0x17f, "s"), (0x181, 0x181, "ɓ"), (0x186, 0x187, "ɔƈ"),
    (0x189, 0x18b, "ɖɗƌ"), (0x18e, 0x191, "ǝəɛƒ"), (0x193, 0x194, "ɠɣ"), (0x196, 0x198, "ɩɨƙ"),
    (0x19c, 0x19d, "ɯɲ"), (0x19f, 0x19f, "ɵ"), (0x1a6, 0x1a7, "ʀƨ"), (0x1a9, 0x1a9, "ʃ"),
    (0x1ac, 0x1ac, "ƭ"), (0x1ae, 0x1af, "ʈư"), (0x1b1, 0x1b2, "ʊʋ"), (0x1b7, 0x1b8, "ʒƹ"),
    (0x1bc, 0x1bc, "ƽ"), (0x1f4, 0x1f4, "ǵ"), (0x1f6, 0x1f7, "ƕƿ"), (0x220, 0x220, "ƞ"),
    (0x23a, 0x23b, "ⱥȼ"), (0x23d, 0x23e, "ƚⱦ"), (0x241, 0x241, "ɂ"), (0x243, 0x245, "ƀʉʌ"),
    (0x2b0, 0x2b8, "hɦjrɹɻʁwy"), (0x2e0, 0x2e4, "ɣlsxʕ"), (0x340, 0x341, "\u0300\u0301"),
    (0x343, 0x343, "\u0313"), (0x345, 0x345, "ι"), (0x374, 0x374, "ʹ"), (0x376, 0x376, "ͷ"),
    (0x37e, 0x37f, ";ϳ"), (0x386, 0x38a, "ά·έήί"), (0x38c, 0x38c, "ό"), (0x38e, 0x38f, "ύώ"),
    (0x3cf, 0x3d6, "ϗβθυύϋφπ"), (0x3f0, 0x3f2, "κρσ"), (0x3f4, 0x3f5, "θε"), (0x3f7, 0x3f7, "ϸ"),
    (0x3f9, 0x3fa, "σϻ"), (0x3fd, 0x3ff, "ͻͼͽ"), (0x4c0, 0x4c0, "ӏ"), (0xf0c, 0xf0c, "་"),
    (0x10c7, 0x10c7, "ⴧ"), (0x10cd, 0x10cd, "ⴭ"), (0x10fc, 0x10fc, "ნ"),
    (0x1c80, 0x1c89, "вдосттъѣꙋ\u1c8a"), (0x1cbd, 0x1cbf, "ჽჾჿ"), (0x1d2c, 0x1d2e, "aæb"),
    (0x1d30, 0x1d32, "deǝ"), (0x1d3c, 0x1d4d, "oȣprtuwaɐɑᴂbdeəɛɜg"),
    (0x1d4f, 0x1d6a, "kmŋoɔᴖᴗptuᴝɯvᴥβγδφχiruvβγρφχ"), (0x1d78, 0x1d78, "н"),
    (0x1d9b, 0x1dad, "ɒcɕðɜfɟɡɥɨɩɪᵻʝɭᶅʟɱɰ"), (0x1db2, 0x1dbf, "ɸʂʃƫʉʊᴜʋʌzʐʑʒθ"),
    (0x1e9b, 0x1e9b, "ṡ"), (0x1e9e, 0x1e9e, "ß"), (0x1f59, 0x1f59, "ὑ"), (0x1f5b, 0x1f5b, "ὓ"),
    (0x1f5d, 0x1f5d, "ὕ"), (0x1f5f, 0x1f5f, "ὗ"), (0x1f71, 0x1f71, "ά"), (0x1f73, 0x1f73, "έ"),
    (0x1f75, 0x1f75, "ή"), (0x1f77, 0x1f77, "ί"), (0x1f79, 0x1f79, "ό"), (0x1f7b, 0x1f7b, "ύ"),
    (0x1f7d, 0x1f7d, "ώ"), (0x1fb8, 0x1fbb, "ᾰᾱὰά"), (0x1fbe, 0x1fbe, "ι"),
    (0x1fc8, 0x1fcb, "ὲέὴή"), (0x1fd3, 0x1fd3, "ΐ"), (0x1fd8, 0x1fdb, "ῐῑὶί"),
    (0x1fe3, 0x1fe3, "ΰ"), (0x1fe8, 0x1fec, "ῠῡὺύῥ"), (0x1fef, 0x1fef, "`"),
    (0x1ff8, 0x1ffb, "ὸόὼώ"), (0x2000, 0x200a, "           "), (0x2011, 0x2011, "‐"),
    (0x202f, 0x202f, " "), (0x205f, 0x205f, " "), (0x2070, 0x2071, "0i"),
    (0x207a, 0x207f, "+−=()n"), (0x208a, 0x208e, "+−=()"), (0x2090, 0x2095, "aeoxəh"),
    (0x209a, 0x209c, "pst"), (0x2102, 0x2102, "c"), (0x2107, 0x2107, "ɛ"),
    (0x210a, 0x2113, "ghhhhħiill"), (0x2115, 0x2115, "n"), (0x2119, 0x211d, "pqrrr"),
    (0x2124, 0x2124, "z"), (0x2126, 0x2126, "ω"), (0x2128, 0x2128, "z"), (0x212a, 0x212d, "kåbc"),
    (0x212f, 0x2134, "eefⅎmo"), (0x2139, 0x2139, "i"), (0x213c, 0x2140, "πγγπ∑"),
    (0x2145, 0x2149, "ddeij"), (0x2160, 0x2160, "i"), (0x2164, 0x2164, "v"), (0x2169, 0x2169, "x"),
    (0x216c, 0x2170, "lcdmi"), (0x2174, 0x2174, "v"), (0x2179, 0x2179, "x"),
    (0x217c, 0x217f, "lcdm"), (0x2183, 0x2183, "ↄ"), (0x2329, 0x232a, "〈〉"), (0x24ea, 0x24ea, "0"),
    (0x2c60, 0x2c60, "ⱡ"), (0x2c62, 0x2c64, "ɫᵽɽ"), (0x2c6d, 0x2c70, "ɑɱɐɒ"), (0x2c72, 0x2c72, "ⱳ"),
    (0x2c75, 0x2c75, "ⱶ"), (0x2c7c, 0x2c7f, "jvȿɀ"), (0x2cf2, 0x2cf2, "ⳳ"), (0x2d6f, 0x2d6f, "ⵡ"),
    (0x2e9f, 0x2e9f, "母"), (0x2ef3, 0x2ef3, "龟"),
    (0x2f00, 0x2f3b, "一丨丶丿乙亅二亠人儿入八冂冖冫几凵刀力勹匕匚匸十卜卩厂厶又口囗土士夂夊夕大女子宀寸小尢尸屮山巛工己巾干幺广廴廾弋弓彐彡彳"),
    (0x2f3c, 0x2f77, "心戈戶手支攴文斗斤方无日曰月木欠止歹殳毋比毛氏气水火爪父爻爿片牙牛犬玄玉瓜瓦甘生用田疋疒癶白皮皿目矛矢石示禸禾穴立竹米糸"),
    (0x2f78, 0x2fb3, "缶网羊羽老而耒耳聿肉臣自至臼舌舛舟艮色艸虍虫血行衣襾見角言谷豆豕豸貝赤走足身車辛辰辵邑酉釆里金長門阜隶隹雨靑非面革韋韭音"),
    (0x2fb4, 0x2fd5, "頁風飛食首香馬骨高髟鬥鬯鬲鬼魚鳥鹵鹿麥麻黃黍黑黹黽鼎鼓鼠鼻齊齒龍龜龠"), (0x3000, 0x3000, " "),
    (0x3002, 0x3002, "."), (0x3036, 0x3036, "〒"), (0x3038, 0x303a, "十卄卅"),
    (0x3131, 0x3139, "ᄀᄁᆪᄂᆬᆭᄃᄄᄅ"), (0x3140, 0x3144, "ᄚᄆᄇᄈᄡ"),
    (0x3165, 0x3177, "ᄔᄕᇇᇈᇌᇎᇓᇗᇙᄜᇝᇟᄝᄞᄠᄢᄣᄧᄩ"), (0x317d, 0x318e, "ᄲᄶᅀᅇᅌᇱᇲᅗᅘᅙᆄᆅᆈᆑᆒᆔᆞᆡ"),
    (0x3192, 0x319f, "一二三四上中下甲乙丙丁天地人"), (0x3244, 0x3247, "問幼文箏"), (0x3260, 0x3268, "ᄀᄂᄃᄅᄆᄇᄉᄋᄌ"),
    (0x326e, 0x327b, "가나다라마바사아자차카타파하"), (0x327e, 0x327e, "우"),
    (0x3280, 0x32b0, "一二三四五六七八九十月火水木金土日株有社名特財祝労秘男女適優印注項休写正上中下左右医宗学監企資協夜"),
    (0x32d0, 0x32e3, "アイウエオカキクケコサシスセソタチツテト"), (0x32ea, 0x32ed, "ヒフヘホ"), (0x32f3, 0x32f4, "ヤユ"),
    (0xa69c, 0xa69d, "ъь"), (0xa770, 0xa770, "ꝯ"), (0xa77d, 0xa77d, "ᵹ"), (0xa78b, 0xa78b, "ꞌ"),
    (0xa78d, 0xa78d, "ɥ"), (0xa7aa, 0xa7ae, "ɦɜɡɬɪ"), (0xa7b0, 0xa7b3, "ʞʇʝꭓ"),
    (0xa7c4, 0xa7c6, "ꞔʂᶎ"), (0xa7cb, 0xa7cb, "ɤ"), (0xa7dc, 0xa7dc, "ƛ"),
    (0xa7f1, 0xa7f5, "scfqꟶ"), (0xa7f8, 0xa7f9, "ħœ"), (0xab5c, 0xab5f, "ꜧꬷɫꭒ"),
    (0xab69, 0xab69, "ʍ"),
    (0xf900, 0xf93b, "豈更車賈滑串句龜龜契金喇奈懶癩羅蘿螺裸邏樂洛烙珞落酪駱亂卵欄爛蘭鸞嵐濫藍襤拉臘蠟廊朗浪狼郎來冷勞擄櫓爐盧老蘆虜路露魯鷺碌"),
    (0xf93c, 0xf977, "祿綠菉錄鹿論壟弄籠聾牢磊賂雷壘屢樓淚漏累縷陋勒肋凜凌稜綾菱陵讀拏樂諾丹寧怒率異北磻便復不泌數索參塞省葉說殺辰沈拾若掠略亮"),
    (0xf978, 0xf9b3, "兩凉梁糧良諒量勵呂女廬旅濾礪閭驪麗黎力曆歷轢年憐戀撚漣煉璉秊練聯輦蓮連鍊列劣咽烈裂說廉念捻殮簾獵令囹寧嶺怜玲瑩羚聆鈴零靈"),
    (0xf9b4, 0xf9ef, "領例禮醴隸惡了僚寮尿料樂燎療蓼遼龍暈阮劉杻柳流溜琉留硫紐類六戮陸倫崙淪輪律慄栗率隆利吏履易李梨泥理痢罹裏裡里離匿溺吝燐璘"),
    (0xf9f0, 0xfa0d, "藺隣鱗麟林淋臨立笠粒狀炙識什茶刺切度拓糖宅洞暴輻行降見廓兀嗀"), (0xfa10, 0xfa10, "塚"),
    (0xfa12, 0xfa12, "晴"), (0xfa15, 0xfa1e, "凞猪益礼神祥福靖精羽"), (0xfa20, 0xfa20, "蘒"),
    (0xfa22, 0xfa22, "諸"), (0xfa25, 0xfa26, "逸都"),
    (0xfa2a, 0xfa65, "飯飼館鶴郞隷侮僧免勉勤卑喝嘆器塀墨層屮悔慨憎懲敏既暑梅海渚漢煮爫琢碑社祉祈祐祖祝禍禎穀突節練縉繁署者臭艹艹著褐視謁謹賓贈"),
    (0xfa66, 0xfa6d, "辶逸難響頻恵𤋮舘"),
    (0xfa70, 0xfaab, "並况全侀充冀勇勺喝啕喙嗢塚墳奄奔婢嬨廒廙彩徭惘慎愈憎慠懲戴揄搜摒敖晴朗望杖歹殺流滛滋漢瀞煮瞧爵犯猪瑱甆画瘝瘟益盛直睊着磌"),
    (0xfaac, 0xfad9, "窱節类絛練缾者荒華蝹襁覆視調諸請謁諾諭謹變贈輸遲醙鉶陼難靖韛響頋頻鬒龜𢡊𢡄𣏕㮝䀘䀹𥉉𥳐𧻓齃龎"),
    (0xfb20, 0xfb29, "\u05e2\u05d0\u05d3\u05d4\u05db\u05dc\u05dd\u05e8\u05ea+"),
    (0xfb50, 0xfb59, "\u0671\u0671\u067b\u067b\u067b\u067b\u067e\u067e\u067e\u067e"),
    (0xfb5a, 0xfb63, "\u0680\u0680\u0680\u0680\u067a\u067a\u067a\u067a\u067f\u067f"),
    (0xfb64, 0xfb6d, "\u067f\u067f\u0679\u0679\u0679\u0679\u06a4\u06a4\u06a4\u06a4"),
    (0xfb6e, 0xfb77, "\u06a6\u06a6\u06a6\u06a6\u0684\u0684\u0684\u0684\u0683\u0683"),
    (0xfb78, 0xfb81, "\u0683\u0683\u0686\u0686\u0686\u0686\u0687\u0687\u0687\u0687"),
    (0xfb82, 0xfb8b, "\u068d\u068d\u068c\u068c\u068e\u068e\u0688\u0688\u0698\u0698"),
    (0xfb8c, 0xfb95, "\u0691\u0691\u06a9\u06a9\u06a9\u06a9\u06af\u06af\u06af\u06af"),
    (0xfb96, 0xfb9f, "\u06b3\u06b3\u06b3\u06b3\u06b1\u06b1\u06b1\u06b1\u06ba\u06ba"),
    (0xfba0, 0xfba9, "\u06bb\u06bb\u06bb\u06bb\u06c0\u06c0\u06c1\u06c1\u06c1\u06c1"),
    (0xfbaa, 0xfbb1, "\u06be\u06be\u06be\u06be\u06d2\u06d2\u06d3\u06d3"),
    (0xfbd3, 0xfbdc, "\u06ad\u06ad\u06ad\u06ad\u06c7\u06c7\u06c6\u06c6\u06c8\u06c8"),
    (0xfbde, 0xfbe7, "\u06cb\u06cb\u06c5\u06c5\u06c9\u06c9\u06d0\u06d0\u06d0\u06d0"),
    (0xfbe8, 0xfbe9, "\u0649\u0649"), (0xfbfc, 0xfbff, "\u06cc\u06cc\u06cc\u06cc"),
    (0xfe10, 0xfe11, ",、"), (0xfe13, 0xfe18, ":;!?〖〗"), (0xfe31, 0xfe40, "—–__()\x7b\x7d〔〕【】《》〈〉"),
    (0xfe47, 0xfe48, "[]"), (0xfe4d, 0xfe51, "___,、"),
    (0xfe54, 0xfe66, ";:?!—()\x7b\x7d〔〕#&*+-<>="), (0xfe68, 0xfe6b, "\\$%@"),
    (0xfe80, 0xfe89, "\u0621\u0622\u0622\u0623\u0623\u0624\u0624\u0625\u0625\u0626"),
    (0xfe8a, 0xfe93, "\u0626\u0626\u0626\u0627\u0627\u0628\u0628\u0628\u0628\u0629"),
    (0xfe94, 0xfe9d, "\u0629\u062a\u062a\u062a\u062a\u062b\u062b\u062b\u062b\u062c"),
    (0xfe9e, 0xfea7, "\u062c\u062c\u062c\u062d\u062d\u062d\u062d\u062e\u062e\u062e"),
    (0xfea8, 0xfeb1, "\u062e\u062f\u062f\u0630\u0630\u0631\u0631\u0632\u0632\u0633"),
    (0xfeb2, 0xfebb, "\u0633\u0633\u0633\u0634\u0634\u0634\u0634\u0635\u0635\u0635"),
    (0xfebc, 0xfec5, "\u0635\u0636\u0636\u0636\u0636\u0637\u0637\u0637\u0637\u0638"),
    (0xfec6, 0xfecf, "\u0638\u0638\u0638\u0639\u0639\u0639\u0639\u063a\u063a\u063a"),
    (0xfed0, 0xfed9, "\u063a\u0641\u0641\u0641\u0641\u0642\u0642\u0642\u0642\u0643"),
    (0xfeda, 0xfee3, "\u0643\u0643\u0643\u0644\u0644\u0644\u0644\u0645\u0645\u0645"),
    (0xfee4, 0xfeed, "\u0645\u0646\u0646\u0646\u0646\u0647\u0647\u0647\u0647\u0648"),
    (0xfeee, 0xfef4, "\u0648\u0649\u0649\u064a\u064a\u064a\u064a"),
    (0xff5f, 0xff84, "⦅⦆.「」、・ヲァィゥェォャュョッーアイウエオカキクケコサシスセソタチツテト"), (0xff8b, 0xff8e, "ヒフヘホ"),
    (0xff94, 0xff95, "ヤユ"), (0xff9c, 0xff9f, "ワン\u3099\u309a"), (0xffa1, 0xffa9, "ᄀᄁᆪᄂᆬᆭᄃᄄᄅ"),
    (0xffb0, 0xffb4, "ᄚᄆᄇᄈᄡ"), (0xffda, 0xffdc, "ᅳᅴᅵ"), (0xffe0, 0xffe2, "¢£¬"),
    (0xffe4, 0xffe6, "¦¥₩"), (0xffe8, 0xffe8, "│"), (0xffed, 0xffee, "■○"),
    (0x10594, 0x10595, "𐖻𐖼"), (0x10781, 0x10785, "ːˑæʙɓ"),
    (0x10787, 0x107b0, "ʣꭦʥʤɖɗᶑɘɞʩɤɢɠʛħʜɧʄʪʫɬ𝼄ꞎɮ𝼅ʎ𝼆øɶɷqɺ𝼈ɽɾʀʨʦꭧʧʈⱱ"),
    (0x107b2, 0x107ba, "ʏʡʢʘǀǁǂ𝼊𝼞"), (0x1d49c, 0x1d49c, "a"), (0x1d49e, 0x1d49f, "cd"),
    (0x1d4a2, 0x1d4a2, "g"), (0x1d4a5, 0x1d4a6, "jk"), (0x1d4bb, 0x1d4bb, "f"),
    (0x1d504, 0x1d505, "ab"), (0x1d538, 0x1d539, "ab"), (0x1d546, 0x1d546, "o"),
    (0x1d6a4, 0x1d6a5, "ıȷ"), (0x1d6b9, 0x1d6b9, "θ"), (0x1d6c1, 0x1d6c1, "∇"),
    (0x1d6d3, 0x1d6d3, "σ"), (0x1d6db, 0x1d6e1, "∂εθκφρπ"), (0x1d6f3, 0x1d6f3, "θ"),
    (0x1d6fb, 0x1d6fb, "∇"), (0x1d70d, 0x1d70d, "σ"), (0x1d715, 0x1d71b, "∂εθκφρπ"),
    (0x1d72d, 0x1d72d, "θ"), (0x1d735, 0x1d735, "∇"), (0x1d747, 0x1d747, "σ"),
    (0x1d74f, 0x1d755, "∂εθκφρπ"), (0x1d767, 0x1d767, "θ"), (0x1d76f, 0x1d76f, "∇"),
    (0x1d781, 0x1d781, "σ"), (0x1d789, 0x1d78f, "∂εθκφρπ"), (0x1d7a1, 0x1d7a1, "θ"),
    (0x1d7a9, 0x1d7a9, "∇"), (0x1d7bb, 0x1d7bb, "σ"), (0x1d7c3, 0x1d7cb, "∂εθκφρπϝϝ"),
    (0x1e039, 0x1e03b, "клм"), (0x1e047, 0x1e050, "ыэюꚉәіјөүӏ"), (0x1e05a, 0x1e05e, "клопс"),
    (0x1e065, 0x1e06d, "ъыґіѕџҫꙑұ"), (0x1ee00, 0x1ee03, "\u0627\u0628\u062c\u062f"),
    (0x1ee05, 0x1ee09, "\u0648\u0632\u062d\u0637\u064a"),
    (0x1ee0e, 0x1ee17, "\u0633\u0639\u0641\u0635\u0642\u0631\u0634\u062a\u062b\u062e"),
    (0x1ee18, 0x1ee1f, "\u0630\u0636\u0638\u063a\u066e\u06ba\u06a1\u066f"),
    (0x1ee21, 0x1ee22, "\u0628\u062c"), (0x1ee24, 0x1ee24, "\u0647"), (0x1ee27, 0x1ee27, "\u062d"),
    (0x1ee29, 0x1ee29, "\u064a"), (0x1ee2e, 0x1ee32, "\u0633\u0639\u0641\u0635\u0642"),
    (0x1ee34, 0x1ee37, "\u0634\u062a\u062b\u062e"), (0x1ee39, 0x1ee39, "\u0636"),
    (0x1ee3b, 0x1ee3b, "\u063a"), (0x1ee42, 0x1ee42, "\u062c"), (0x1ee47, 0x1ee47, "\u062d"),
    (0x1ee49, 0x1ee49, "\u064a"), (0x1ee4b, 0x1ee4b, "\u0644"),
    (0x1ee4d, 0x1ee4f, "\u0646\u0633\u0639"), (0x1ee51, 0x1ee52, "\u0635\u0642"),
    (0x1ee54, 0x1ee54, "\u0634"), (0x1ee57, 0x1ee57, "\u062e"), (0x1ee59, 0x1ee59, "\u0636"),
    (0x1ee5b, 0x1ee5b, "\u063a"), (0x1ee5d, 0x1ee5d, "\u06ba"), (0x1ee5f, 0x1ee5f, "\u066f"),
    (0x1ee61, 0x1ee62, "\u0628\u062c"), (0x1ee64, 0x1ee64, "\u0647"),
    (0x1ee67, 0x1ee6a, "\u062d\u0637\u064a\u0643"),
    (0x1ee6c, 0x1ee72, "\u0645\u0646\u0633\u0639\u0641\u0635\u0642"),
    (0x1ee74, 0x1ee77, "\u0634\u062a\u062b\u062e"), (0x1ee79, 0x1ee7c, "\u0636\u0638\u063a\u066e"),
    (0x1ee7e, 0x1ee7e, "\u06a1"),
    (0x1ee80, 0x1ee89, "\u0627\u0628\u062c\u062f\u0647\u0648\u0632\u062d\u0637\u064a"),
    (0x1ee8b, 0x1ee94, "\u0644\u0645\u0646\u0633\u0639\u0641\u0635\u0642\u0631\u0634"),
    (0x1ee95, 0x1ee9b, "\u062a\u062b\u062e\u0630\u0636\u0638\u063a"),
    (0x1eea1, 0x1eea3, "\u0628\u062c\u062f"), (0x1eea5, 0x1eea9, "\u0648\u0632\u062d\u0637\u064a"),
    (0x1eeab, 0x1eeb4, "\u0644\u0645\u0646\u0633\u0639\u0641\u0635\u0642\u0631\u0634"),
    (0x1eeb5, 0x1eebb, "\u062a\u062b\u062e\u0630\u0636\u0638\u063a"), (0x1f12b, 0x1f12c, "cr"),
    (0x1f202, 0x1f202, "サ"), (0x1f210, 0x1f23b, "手字双デ二多解天交映無料前後再新初終生販声吹演投捕一三遊左中右指走打禁空合満有月申割営配"),
    (0x1f250, 0x1f251, "得可"),
    (0x2f800, 0x2f83b, "丽丸乁𠄢你侮侻倂偺備僧像㒞𠘺免兔兤具𠔜㒹內再𠕋冗冤仌冬况𩇟凵刃㓟刻剆割剷㔕勇勉勤勺包匆北卉卑博即卽卿卿卿𠨬灰及叟𠭣叫叱吆"),
    (0x2f83c, 0x2f877, "咞吸呈周咢哶唐啓啣善善喙喫喳嗂圖嘆圗噑噴切壮城埴堍型堲報墬𡓤売壷夆多夢奢𡚨𡛪姬娛娧姘婦㛮㛼嬈嬾嬾𡧈寃寘寧寳𡬘寿将当尢㞁屠"),
    (0x2f878, 0x2f8b3, "屮峀岍𡷤嵃𡷦嵮嵫嵼巡巢㠯巽帨帽幩㡢𢆃㡼庰庳庶廊𪎒廾𢌱𢌱舁弢弢㣇𣊸𦇚形彫㣣徚忍志忹悁㤺㤜悔𢛔惇慈慌慎慌慺憎憲憤憯懞懲懶成戛"),
    (0x2f8b4, 0x2f8ef, "扝抱拔捐𢬌挽拼捨掃揤𢯱搢揅掩㨮摩摾撝摷㩬敏敬𣀊旣書晉㬙暑㬈㫤冒冕最暜肭䏙朗望朡杞杓𣏃㭉柺枅桒梅𣑭梎栟椔㮝楂榣槪檨𣚣櫛㰘次"),
    (0x2f8f0, 0x2f92b, "𣢧歔㱎歲殟殺殻𣪍𡴋𣫺汎𣲼沿泍汧洖派海流浩浸涅𣴞洴港湮㴳滋滇𣻑淹潮𣽞𣾎濆瀹瀞瀛㶖灊災灷炭𠔥煅𤉣熜𤎫爨爵牐𤘈犀犕𤜵𤠔獺王㺬玥"),
    (0x2f92c, 0x2f967, "㺸㺸瑇瑜瑱璅瓊㼛甤𤰶甾𤲒異𢆟瘐𤾡𤾸𥁄㿼䀈直𥃳𥃲𥄙𥄳眞真真睊䀹瞋䁆䂖𥐝硎碌磌䃣𥘦祖𥚚𥛅福秫䄯穀穊穏𥥼𥪧𥪧竮䈂𥮫篆築䈧𥲀糒䊠"),
    (0x2f968, 0x2f9a3, "糨糣紀𥾆絣䌁緇縂繅䌴𦈨𦉇䍙𦋙罺𦌾羕翺者𦓚𦔣聠𦖨聰𣍟䏕育脃䐋脾媵𦞧𦞵𣎓𣎜舁舄辞䑫芑芋芝劳花芳芽苦𦬼若茝荣莭茣莽菧著荓菊菌菜"),
    (0x2f9a4, 0x2f9df, "𦰶𦵫𦳕䔫蓱蓳蔖𧏊蕤𦼬䕝䕡𦾱𧃒䕫虐虜虧虩蚩蚈蜎蛢蝹蜨蝫螆䗗蟡蠁䗹衠衣𧙧裗裞䘵裺㒻𧢮𧥦䚾䛇誠諭變豕𧲨貫賁贛起𧼯𠠄跋趼跰𠣞軔輸"),
    (0x2f9e0, 0x2fa1b, "𨗒𨗭邔郱鄑𨜮鄛鈸鋗鋘鉼鏹鐕𨯺開䦕閷𨵷䧦雃嶲霣𩅅𩈚䩮䩶韠𩐊䪲𩒖頋頋頩𩖶飢䬳餩馧駂駾䯎𩬰鬒鱀鳽䳎䳭鵧𪃎䳸𪄅𪈎𪊑麻䵖黹黾鼅鼏鼖"),
    (0x2fa1c, 0x2fa1d, "鼻𪘀")]

/-- Ranges of characters with the texts that they stand for. -/
def spelled : List (Nat × Nat × List String) :=
  [(0xa8, 0xa8, [" \u0308"]), (0xaf, 0xaf, [" \u0304"]), (0xb4, 0xb4, [" \u0301"]),
    (0xb8, 0xb8, [" \u0327"]), (0xbc, 0xbe, ["1⁄4", "1⁄2", "3⁄4"]), (0x130, 0x130, ["i\u0307"]),
    (0x132, 0x133, ["ij", "ij"]), (0x13f, 0x140, ["l·", "l·"]), (0x149, 0x149, ["ʼn"]),
    (0x1c4, 0x1cc, ["dž", "dž", "dž", "lj", "lj", "lj", "nj", "nj", "nj"]),
    (0x1f1, 0x1f3, ["dz", "dz", "dz"]),
    (0x2d8, 0x2dd, [" \u0306", " \u0307", " \u030a", " \u0328", " \u0303", " \u030b"]),
    (0x344, 0x344, ["\u0308\u0301"]), (0x37a, 0x37a, [" ι"]),
    (0x384, 0x385, [" \u0301", " \u0308\u0301"]), (0x587, 0x587, ["եւ"]),
    (0x675, 0x678, ["\u0627\u0674", "\u0648\u0674", "\u06c7\u0674", "\u064a\u0674"]),
    (0x958, 0x95d, ["क\u093c", "ख\u093c", "ग\u093c", "ज\u093c", "ड\u093c", "ढ\u093c"]),
    (0x95e, 0x95f, ["फ\u093c", "य\u093c"]), (0x9dc, 0x9dd, ["ড\u09bc", "ঢ\u09bc"]),
    (0x9df, 0x9df, ["য\u09bc"]), (0xa33, 0xa33, ["ਲ\u0a3c"]), (0xa36, 0xa36, ["ਸ\u0a3c"]),
    (0xa59, 0xa5b, ["ਖ\u0a3c", "ਗ\u0a3c", "ਜ\u0a3c"]), (0xa5e, 0xa5e, ["ਫ\u0a3c"]),
    (0xb5c, 0xb5d, ["ଡ\u0b3c", "ଢ\u0b3c"]), (0xe33, 0xe33, ["\u0e4dา"]),
    (0xeb3, 0xeb3, ["\u0ecdາ"]), (0xedc, 0xedd, ["ຫນ", "ຫມ"]), (0xf43, 0xf43, ["ག\u0fb7"]),
    (0xf4d, 0xf4d, ["ཌ\u0fb7"]), (0xf52, 0xf52, ["ད\u0fb7"]), (0xf57, 0xf57, ["བ\u0fb7"]),
    (0xf5c, 0xf5c, ["ཛ\u0fb7"]), (0xf69, 0xf69, ["ཀ\u0fb5"]), (0xf73, 0xf73, ["\u0f71\u0f72"]),
    (0xf75, 0xf78, ["\u0f71\u0f74", "\u0fb2\u0f80", "\u0fb2\u0f71\u0f80", "\u0fb3\u0f80"]),
    (0xf79, 0xf79, ["\u0fb3\u0f71\u0f80"]), (0xf81, 0xf81, ["\u0f71\u0f80"]),
    (0xf93, 0xf93, ["\u0f92\u0fb7"]), (0xf9d, 0xf9d, ["\u0f9c\u0fb7"]),
    (0xfa2, 0xfa2, ["\u0fa1\u0fb7"]), (0xfa7, 0xfa7, ["\u0fa6\u0fb7"]),
    (0xfac, 0xfac, ["\u0fab\u0fb7"]), (0xfb9, 0xfb9, ["\u0f90\u0fb5"]), (0x1e9a, 0x1e9a, ["aʾ"]),
    (0x1f80, 0x1f8b, ["ἀι", "ἁι", "ἂι", "ἃι", "ἄι", "ἅι", "ἆι", "ἇι", "ἀι", "ἁι", "ἂι", "ἃι"]),
    (0x1f8c, 0x1f97, ["ἄι", "ἅι", "ἆι", "ἇι", "ἠι", "ἡι", "ἢι", "ἣι", "ἤι", "ἥι", "ἦι", "ἧι"]),
    (0x1f98, 0x1fa3, ["ἠι", "ἡι", "ἢι", "ἣι", "ἤι", "ἥι", "ἦι", "ἧι", "ὠι", "ὡι", "ὢι", "ὣι"]),
    (0x1fa4, 0x1faf, ["ὤι", "ὥι", "ὦι", "ὧι", "ὠι", "ὡι", "ὢι", "ὣι", "ὤι", "ὥι", "ὦι", "ὧι"]),
    (0x1fb2, 0x1fb4, ["ὰι", "αι", "άι"]), (0x1fb7, 0x1fb7, ["ᾶι"]),
    (0x1fbc, 0x1fbd, ["αι", " \u0313"]),
    (0x1fbf, 0x1fc4, [" \u0313", " \u0342", " \u0308\u0342", "ὴι", "ηι", "ήι"]),
    (0x1fc7, 0x1fc7, ["ῆι"]),
    (0x1fcc, 0x1fcf, ["ηι", " \u0313\u0300", " \u0313\u0301", " \u0313\u0342"]),
    (0x1fdd, 0x1fdf, [" \u0314\u0300", " \u0314\u0301", " \u0314\u0342"]),
    (0x1fed, 0x1fee, [" \u0308\u0300", " \u0308\u0301"]), (0x1ff2, 0x1ff4, ["ὼι", "ωι", "ώι"]),
    (0x1ff7, 0x1ff7, ["ῶι"]), (0x1ffc, 0x1ffe, ["ωι", " \u0301", " \u0314"]),
    (0x2017, 0x2017, [" \u0333"]), (0x2033, 0x2034, ["′′", "′′′"]), (0x2036, 0x2037, ["‵‵", "‵‵‵"]),
    (0x203c, 0x203c, ["!!"]), (0x203e, 0x203e, [" \u0305"]), (0x2047, 0x2049, ["??", "?!", "!?"]),
    (0x2057, 0x2057, ["′′′′"]), (0x20a8, 0x20a8, ["rs"]), (0x2100, 0x2101, ["a/c", "a/s"]),
    (0x2103, 0x2103, ["°c"]), (0x2105, 0x2106, ["c/o", "c/u"]), (0x2109, 0x2109, ["°f"]),
    (0x2116, 0x2116, ["no"]), (0x2120, 0x2122, ["sm", "tel", "tm"]), (0x213b, 0x213b, ["fax"]),
    (0x2150, 0x2159, ["1⁄7", "1⁄9", "1⁄10", "1⁄3", "2⁄3", "1⁄5", "2⁄5", "3⁄5", "4⁄5", "1⁄6"]),
    (0x215a, 0x215f, ["5⁄6", "1⁄8", "3⁄8", "5⁄8", "7⁄8", "1⁄"]),
    (0x2161, 0x2163, ["ii", "iii", "iv"]), (0x2165, 0x2168, ["vi", "vii", "viii", "ix"]),
    (0x216a, 0x216b, ["xi", "xii"]), (0x2171, 0x2173, ["ii", "iii", "iv"]),
    (0x2175, 0x2178, ["vi", "vii", "viii", "ix"]), (0x217a, 0x217b, ["xi", "xii"]),
    (0x2189, 0x2189, ["0⁄3"]), (0x222c, 0x222d, ["∫∫", "∫∫∫"]), (0x222f, 0x2230, ["∮∮", "∮∮∮"]),
    (0x2469, 0x2474, ["10", "11", "12", "13", "14", "15", "16", "17", "18", "19", "20", "(1)"]),
    (0x2475, 0x247e, ["(2)", "(3)", "(4)", "(5)", "(6)", "(7)", "(8)", "(9)", "(10)", "(11)"]),
    (0x247f, 0x2487, ["(12)", "(13)", "(14)", "(15)", "(16)", "(17)", "(18)", "(19)", "(20)"]),
    (0x249c, 0x24a5, ["(a)", "(b)", "(c)", "(d)", "(e)", "(f)", "(g)", "(h)", "(i)", "(j)"]),
    (0x24a6, 0x24af, ["(k)", "(l)", "(m)", "(n)", "(o)", "(p)", "(q)", "(r)", "(s)", "(t)"]),
    (0x24b0, 0x24b5, ["(u)", "(v)", "(w)", "(x)", "(y)", "(z)"]), (0x2a0c, 0x2a0c, ["∫∫∫∫"]),
    (0x2a74, 0x2a76, ["::=", "==", "==="]), (0x2adc, 0x2adc, ["⫝\u0338"]),
    (0x309b, 0x309c, [" \u3099", " \u309a"]), (0x309f, 0x309f, ["より"]), (0x30ff, 0x30ff, ["コト"]),
    (0x3200, 0x3209, ["(ᄀ)", "(ᄂ)", "(ᄃ)", "(ᄅ)", "(ᄆ)", "(ᄇ)", "(ᄉ)", "(ᄋ)", "(ᄌ)", "(ᄎ)"]),
    (0x320a, 0x3213, ["(ᄏ)", "(ᄐ)", "(ᄑ)", "(ᄒ)", "(가)", "(나)", "(다)", "(라)", "(마)", "(바)"]),
    (0x3214, 0x321d, ["(사)", "(아)", "(자)", "(차)", "(카)", "(타)", "(파)", "(하)", "(주)", "(오전)"]),
    (0x321e, 0x321e, ["(오후)"]),
    (0x3220, 0x3229, ["(一)", "(二)", "(三)", "(四)", "(五)", "(六)", "(七)", "(八)", "(九)", "(十)"]),
    (0x322a, 0x3233, ["(月)", "(火)", "(水)", "(木)", "(金)", "(土)", "(日)", "(株)", "(有)", "(社)"]),
    (0x3234, 0x323d, ["(名)", "(特)", "(財)", "(祝)", "(労)", "(代)", "(呼)", "(学)", "(監)", "(企)"]),
    (0x323e, 0x3243, ["(資)", "(協)", "(祭)", "(休)", "(自)", "(至)"]),
    (0x3250, 0x325b, ["pte", "21", "22", "23", "24", "25", "26", "27", "28", "29", "30", "31"]),
    (0x325c, 0x325f, ["32", "33", "34", "35"]), (0x327c, 0x327d, ["참고", "주의"]),
    (0x32b1, 0x32bc, ["36", "37", "38", "39", "40", "41", "42", "43", "44", "45", "46", "47"]),
    (0x32bd, 0x32c8, ["48", "49", "50", "1月", "2月", "3月", "4月", "5月", "6月", "7月", "8月", "9月"]),
    (0x32c9, 0x32cf, ["10月", "11月", "12月", "hg", "erg", "ev", "ltd"]),
    (0x32ff, 0x3307, ["令和", "アパート", "アルファ", "アンペア", "アール", "イニング", "インチ", "ウォン", "エスクード"]),
    (0x3308, 0x3311, ["エーカー", "オンス", "オーム", "カイリ", "カラット", "カロリー", "ガロン", "ガンマ", "ギガ", "ギニー"]),
    (0x3312, 0x3319, ["キュリー", "ギルダー", "キロ", "キログラム", "キロメートル", "キロワット", "グラム", "グラムトン"]),
    (0x331a, 0x3322, ["クルゼイロ", "クローネ", "ケース", "コルナ", "コーポ", "サイクル", "サンチーム", "シリング", "センチ"]),
    (0x3323, 0x332c, ["セント", "ダース", "デシ", "ドル", "トン", "ナノ", "ノット", "ハイツ", "パーセント", "パーツ"]),
    (0x332d, 0x3335, ["バーレル", "ピアストル", "ピクル", "ピコ", "ビル", "ファラッド", "フィート", "ブッシェル", "フラン"]),
    (0x3336, 0x333f, ["ヘクタール", "ペソ", "ペニヒ", "ヘルツ", "ペンス", "ページ", "ベータ", "ポイント", "ボルト", "ホン"]),
    (0x3340, 0x3349, ["ポンド", "ホール", "ホーン", "マイクロ", "マイル", "マッハ", "マルク", "マンション", "ミクロン", "ミリ"]),
    (0x334a, 0x3353, ["ミリバール", "メガ", "メガトン", "メートル", "ヤード", "ヤール", "ユアン", "リットル", "リラ", "ルピー"]),
    (0x3354, 0x335e, ["ルーブル", "レム", "レントゲン", "ワット", "0点", "1点", "2点", "3点", "4点", "5点", "6点"]),
    (0x335f, 0x3369, ["7点", "8点", "9点", "10点", "11点", "12点", "13点", "14点", "15点", "16点", "17点"]),
    (0x336a, 0x3373, ["18点", "19点", "20点", "21点", "22点", "23点", "24点", "hpa", "da", "au"]),
    (0x3374, 0x337e, ["bar", "ov", "pc", "dm", "dm2", "dm3", "iu", "平成", "昭和", "大正", "明治"]),
    (0x337f, 0x3389, ["株式会社", "pa", "na", "μa", "ma", "ka", "kb", "mb", "gb", "cal", "kcal"]),
    (0x338a, 0x3394, ["pf", "nf", "μf", "μg", "mg", "kg", "hz", "khz", "mhz", "ghz", "thz"]),
    (0x3395, 0x33a0, ["μl", "ml", "dl", "kl", "fm", "nm", "μm", "mm", "cm", "km", "mm2", "cm2"]),
    (0x33a1, 0x33aa, ["m2", "km2", "mm3", "cm3", "m3", "km3", "m∕s", "m∕s2", "pa", "kpa"]),
    (0x33ab, 0x33b4, ["mpa", "gpa", "rad", "rad∕s", "rad∕s2", "ps", "ns", "μs", "ms", "pv"]),
    (0x33b5, 0x33c0, ["nv", "μv", "mv", "kv", "mv", "pw", "nw", "μw", "mw", "kw", "mw", "kω"]),
    (0x33c1, 0x33c1, ["mω"]), (0x33c3, 0x33c6, ["bq", "cc", "cd", "c∕kg"]),
    (0x33c8, 0x33d3, ["db", "gy", "ha", "hp", "in", "kk", "km", "kt", "lm", "ln", "log", "lx"]),
    (0x33d4, 0x33d7, ["mb", "mil", "mol", "ph"]),
    (0x33d9, 0x33e3, ["ppm", "pr", "sr", "sv", "wb", "v∕m", "a∕m", "1日", "2日", "3日", "4日"]),
    (0x33e4, 0x33ee, ["5日", "6日", "7日", "8日", "9日", "10日", "11日", "12日", "13日", "14日", "15日"]),
    (0x33ef, 0x33f8, ["16日", "17日", "18日", "19日", "20日", "21日", "22日", "23日", "24日", "25日"]),
    (0x33f9, 0x33ff, ["26日", "27日", "28日", "29日", "30日", "31日", "gal"]),
    (0xfb00, 0xfb06, ["ff", "fi", "fl", "ffi", "ffl", "st", "st"]),
    (0xfb13, 0xfb17, ["մն", "մե", "մի", "վն", "մխ"]), (0xfb1d, 0xfb1d, ["\u05d9\u05b4"]),
    (0xfb1f, 0xfb1f, ["\u05f2\u05b7"]),
    (0xfb2a, 0xfb2c, ["\u05e9\u05c1", "\u05e9\u05c2", "\u05e9\u05bc\u05c1"]),
    (0xfb2d, 0xfb30, ["\u05e9\u05bc\u05c2", "\u05d0\u05b7", "\u05d0\u05b8", "\u05d0\u05bc"]),
    (0xfb31, 0xfb34, ["\u05d1\u05bc", "\u05d2\u05bc", "\u05d3\u05bc", "\u05d4\u05bc"]),
    (0xfb35, 0xfb36, ["\u05d5\u05bc", "\u05d6\u05bc"]),
    (0xfb38, 0xfb3b, ["\u05d8\u05bc", "\u05d9\u05bc", "\u05da\u05bc", "\u05db\u05bc"]),
    (0xfb3c, 0xfb3c, ["\u05dc\u05bc"]), (0xfb3e, 0xfb3e, ["\u05de\u05bc"]),
    (0xfb40, 0xfb41, ["\u05e0\u05bc", "\u05e1\u05bc"]),
    (0xfb43, 0xfb44, ["\u05e3\u05bc", "\u05e4\u05bc"]),
    (0xfb46, 0xfb49, ["\u05e6\u05bc", "\u05e7\u05bc", "\u05e8\u05bc", "\u05e9\u05bc"]),
    (0xfb4a, 0xfb4d, ["\u05ea\u05bc", "\u05d5\u05b9", "\u05d1\u05bf", "\u05db\u05bf"]),
    (0xfb4e, 0xfb4f, ["\u05e4\u05bf", "\u05d0\u05dc"]), (0xfbdd, 0xfbdd, ["\u06c7\u0674"]),
    (0xfbea, 0xfbed, ["\u0626\u0627", "\u0626\u0627", "\u0626\u06d5", "\u0626\u06d5"]),
    (0xfbee, 0xfbf1, ["\u0626\u0648", "\u0626\u0648", "\u0626\u06c7", "\u0626\u06c7"]),
    (0xfbf2, 0xfbf5, ["\u0626\u06c6", "\u0626\u06c6", "\u0626\u06c8", "\u0626\u06c8"]),
    (0xfbf6, 0xfbf9, ["\u0626\u06d0", "\u0626\u06d0", "\u0626\u06d0", "\u0626\u0649"]),
    (0xfbfa, 0xfbfb, ["\u0626\u0649", "\u0626\u0649"]),
    (0xfc00, 0xfc03, ["\u0626\u062c", "\u0626\u062d", "\u0626\u0645", "\u0626\u0649"]),
    (0xfc04, 0xfc07, ["\u0626\u064a", "\u0628\u062c", "\u0628\u062d", "\u0628\u062e"]),
    (0xfc08, 0xfc0b, ["\u0628\u0645", "\u0628\u0649", "\u0628\u064a", "\u062a\u062c"]),
    (0xfc0c, 0xfc0f, ["\u062a\u062d", "\u062a\u062e", "\u062a\u0645", "\u062a\u0649"]),
    (0xfc10, 0xfc13, ["\u062a\u064a", "\u062b\u062c", "\u062b\u0645", "\u062b\u0649"]),
    (0xfc14, 0xfc17, ["\u062b\u064a", "\u062c\u062d", "\u062c\u0645", "\u062d\u062c"]),
    (0xfc18, 0xfc1b, ["\u062d\u0645", "\u062e\u062c", "\u062e\u062d", "\u062e\u0645"]),
    (0xfc1c, 0xfc1f, ["\u0633\u062c", "\u0633\u062d", "\u0633\u062e", "\u0633\u0645"]),
    (0xfc20, 0xfc23, ["\u0635\u062d", "\u0635\u0645", "\u0636\u062c", "\u0636\u062d"]),
    (0xfc24, 0xfc27, ["\u0636\u062e", "\u0636\u0645", "\u0637\u062d", "\u0637\u0645"]),
    (0xfc28, 0xfc2b, ["\u0638\u0645", "\u0639\u062c", "\u0639\u0645", "\u063a\u062c"]),
    (0xfc2c, 0xfc2f, ["\u063a\u0645", "\u0641\u062c", "\u0641\u062d", "\u0641\u062e"]),
    (0xfc30, 0xfc33, ["\u0641\u0645", "\u0641\u0649", "\u0641\u064a", "\u0642\u062d"]),
    (0xfc34, 0xfc37, ["\u0642\u0645", "\u0642\u0649", "\u0642\u064a", "\u0643\u0627"]),
    (0xfc38, 0xfc3b, ["\u0643\u062c", "\u0643\u062d", "\u0643\u062e", "\u0643\u0644"]),
    (0xfc3c, 0xfc3f, ["\u0643\u0645", "\u0643\u0649", "\u0643\u064a", "\u0644\u062c"]),
    (0xfc40, 0xfc43, ["\u0644\u062d", "\u0644\u062e", "\u0644\u0645", "\u0644\u0649"]),
    (0xfc44, 0xfc47, ["\u0644\u064a", "\u0645\u062c", "\u0645\u062d", "\u0645\u062e"]),
    (0xfc48, 0xfc4b, ["\u0645\u0645", "\u0645\u0649", "\u0645\u064a", "\u0646\u062c"]),
    (0xfc4c, 0xfc4f, ["\u0646\u062d", "\u0646\u062e", "\u0646\u0645", "\u0646\u0649"]),
    (0xfc50, 0xfc53, ["\u0646\u064a", "\u0647\u062c", "\u0647\u0645", "\u0647\u0649"]),
    (0xfc54, 0xfc57, ["\u0647\u064a", "\u064a\u062c", "\u064a\u062d", "\u064a\u062e"]),
    (0xfc58, 0xfc5b, ["\u064a\u0645", "\u064a\u0649", "\u064a\u064a", "\u0630\u0670"]),
    (0xfc5c, 0xfc5f, ["\u0631\u0670", "\u0649\u0670", " \u064c\u0651", " \u064d\u0651"]),
    (0xfc60, 0xfc63, [" \u064e\u0651", " \u064f\u0651", " \u0650\u0651", " \u0651\u0670"]),
    (0xfc64, 0xfc67, ["\u0626\u0631", "\u0626\u0632", "\u0626\u0645", "\u0626\u0646"]),
    (0xfc68, 0xfc6b, ["\u0626\u0649", "\u0626\u064a", "\u0628\u0631", "\u0628\u0632"]),
    (0xfc6c, 0xfc6f, ["\u0628\u0645", "\u0628\u0646", "\u0628\u0649", "\u0628\u064a"]),
    (0xfc70, 0xfc73, ["\u062a\u0631", "\u062a\u0632", "\u062a\u0645", "\u062a\u0646"]),
    (0xfc74, 0xfc77, ["\u062a\u0649", "\u062a\u064a", "\u062b\u0631", "\u062b\u0632"]),
    (0xfc78, 0xfc7b, ["\u062b\u0645", "\u062b\u0646", "\u062b\u0649", "\u062b\u064a"]),
    (0xfc7c, 0xfc7f, ["\u0641\u0649", "\u0641\u064a", "\u0642\u0649", "\u0642\u064a"]),
    (0xfc80, 0xfc83, ["\u0643\u0627", "\u0643\u0644", "\u0643\u0645", "\u0643\u0649"]),
    (0xfc84, 0xfc87, ["\u0643\u064a", "\u0644\u0645", "\u0644\u0649", "\u0644\u064a"]),
    (0xfc88, 0xfc8b, ["\u0645\u0627", "\u0645\u0645", "\u0646\u0631", "\u0646\u0632"]),
    (0xfc8c, 0xfc8f, ["\u0646\u0645", "\u0646\u0646", "\u0646\u0649", "\u0646\u064a"]),
    (0xfc90, 0xfc93, ["\u0649\u0670", "\u064a\u0631", "\u064a\u0632", "\u064a\u0645"]),
    (0xfc94, 0xfc97, ["\u064a\u0646", "\u064a\u0649", "\u064a\u064a", "\u0626\u062c"]),
    (0xfc98, 0xfc9b, ["\u0626\u062d", "\u0626\u062e", "\u0626\u0645", "\u0626\u0647"]),
    (0xfc9c, 0xfc9f, ["\u0628\u062c", "\u0628\u062d", "\u0628\u062e", "\u0628\u0645"]),
    (0xfca0, 0xfca3, ["\u0628\u0647", "\u062a\u062c", "\u062a\u062d", "\u062a\u062e"]),
    (0xfca4, 0xfca7, ["\u062a\u0645", "\u062a\u0647", "\u062b\u0645", "\u062c\u062d"]),
    (0xfca8, 0xfcab, ["\u062c\u0645", "\u062d\u062c", "\u062d\u0645", "\u062e\u062c"]),
    (0xfcac, 0xfcaf, ["\u062e\u0645", "\u0633\u062c", "\u0633\u062d", "\u0633\u062e"]),
    (0xfcb0, 0xfcb3, ["\u0633\u0645", "\u0635\u062d", "\u0635\u062e", "\u0635\u0645"]),
    (0xfcb4, 0xfcb7, ["\u0636\u062c", "\u0636\u062d", "\u0636\u062e", "\u0636\u0645"]),
    (0xfcb8, 0xfcbb, ["\u0637\u062d", "\u0638\u0645", "\u0639\u062c", "\u0639\u0645"]),
    (0xfcbc, 0xfcbf, ["\u063a\u062c", "\u063a\u0645", "\u0641\u062c", "\u0641\u062d"]),
    (0xfcc0, 0xfcc3, ["\u0641\u062e", "\u0641\u0645", "\u0642\u062d", "\u0642\u0645"]),
    (0xfcc4, 0xfcc7, ["\u0643\u062c", "\u0643\u062d", "\u0643\u062e", "\u0643\u0644"]),
    (0xfcc8, 0xfccb, ["\u0643\u0645", "\u0644\u062c", "\u0644\u062d", "\u0644\u062e"]),
    (0xfccc, 0xfccf, ["\u0644\u0645", "\u0644\u0647", "\u0645\u062c", "\u0645\u062d"]),
    (0xfcd0, 0xfcd3, ["\u0645\u062e", "\u0645\u0645", "\u0646\u062c", "\u0646\u062d"]),
    (0xfcd4, 0xfcd7, ["\u0646\u062e", "\u0646\u0645", "\u0646\u0647", "\u0647\u062c"]),
    (0xfcd8, 0xfcdb, ["\u0647\u0645", "\u0647\u0670", "\u064a\u062c", "\u064a\u062d"]),
    (0xfcdc, 0xfcdf, ["\u064a\u062e", "\u064a\u0645", "\u064a\u0647", "\u0626\u0645"]),
    (0xfce0, 0xfce3, ["\u0626\u0647", "\u0628\u0645", "\u0628\u0647", "\u062a\u0645"]),
    (0xfce4, 0xfce7, ["\u062a\u0647", "\u062b\u0645", "\u062b\u0647", "\u0633\u0645"]),
    (0xfce8, 0xfceb, ["\u0633\u0647", "\u0634\u0645", "\u0634\u0647", "\u0643\u0644"]),
    (0xfcec, 0xfcef, ["\u0643\u0645", "\u0644\u0645", "\u0646\u0645", "\u0646\u0647"]),
    (0xfcf0, 0xfcf2, ["\u064a\u0645", "\u064a\u0647", "\u0640\u064e\u0651"]),
    (0xfcf3, 0xfcf5, ["\u0640\u064f\u0651", "\u0640\u0650\u0651", "\u0637\u0649"]),
    (0xfcf6, 0xfcf9, ["\u0637\u064a", "\u0639\u0649", "\u0639\u064a", "\u063a\u0649"]),
    (0xfcfa, 0xfcfd, ["\u063a\u064a", "\u0633\u0649", "\u0633\u064a", "\u0634\u0649"]),
    (0xfcfe, 0xfd01, ["\u0634\u064a", "\u062d\u0649", "\u062d\u064a", "\u062c\u0649"]),
    (0xfd02, 0xfd05, ["\u062c\u064a", "\u062e\u0649", "\u062e\u064a", "\u0635\u0649"]),
    (0xfd06, 0xfd09, ["\u0635\u064a", "\u0636\u0649", "\u0636\u064a", "\u0634\u062c"]),
    (0xfd0a, 0xfd0d, ["\u0634\u062d", "\u0634\u062e", "\u0634\u0645", "\u0634\u0631"]),
    (0xfd0e, 0xfd11, ["\u0633\u0631", "\u0635\u0631", "\u0636\u0631", "\u0637\u0649"]),
    (0xfd12, 0xfd15, ["\u0637\u064a", "\u0639\u0649", "\u0639\u064a", "\u063a\u0649"]),
    (0xfd16, 0xfd19, ["\u063a\u064a", "\u0633\u0649", "\u0633\u064a", "\u0634\u0649"]),
    (0xfd1a, 0xfd1d, ["\u0634\u064a", "\u062d\u0649", "\u062d\u064a", "\u062c\u0649"]),
    (0xfd1e, 0xfd21, ["\u062c\u064a", "\u062e\u0649", "\u062e\u064a", "\u0635\u0649"]),
    (0xfd22, 0xfd25, ["\u0635\u064a", "\u0636\u0649", "\u0636\u064a", "\u0634\u062c"]),
    (0xfd26, 0xfd29, ["\u0634\u062d", "\u0634\u062e", "\u0634\u0645", "\u0634\u0631"]),
    (0xfd2a, 0xfd2d, ["\u0633\u0631", "\u0635\u0631", "\u0636\u0631", "\u0634\u062c"]),
    (0xfd2e, 0xfd31, ["\u0634\u062d", "\u0634\u062e", "\u0634\u0645", "\u0633\u0647"]),
    (0xfd32, 0xfd35, ["\u0634\u0647", "\u0637\u0645", "\u0633\u062c", "\u0633\u062d"]),
    (0xfd36, 0xfd39, ["\u0633\u062e", "\u0634\u062c", "\u0634\u062d", "\u0634\u062e"]),
    (0xfd3a, 0xfd3d, ["\u0637\u0645", "\u0638\u0645", "\u0627\u064b", "\u0627\u064b"]),
    (0xfd50, 0xfd52, ["\u062a\u062c\u0645", "\u062a\u062d\u062c", "\u062a\u062d\u062c"]),
    (0xfd53, 0xfd55, ["\u062a\u062d\u0645", "\u062a\u062e\u0645", "\u062a\u0645\u062c"]),
    (0xfd56, 0xfd58, ["\u062a\u0645\u062d", "\u062a\u0645\u062e", "\u062c\u0645\u062d"]),
    (0xfd59, 0xfd5b, ["\u062c\u0645\u062d", "\u062d\u0645\u064a", "\u062d\u0645\u0649"]),
    (0xfd5c, 0xfd5e, ["\u0633\u062d\u062c", "\u0633\u062c\u062d", "\u0633\u062c\u0649"]),
    (0xfd5f, 0xfd61, ["\u0633\u0645\u062d", "\u0633\u0645\u062d", "\u0633\u0645\u062c"]),
    (0xfd62, 0xfd64, ["\u0633\u0645\u0645", "\u0633\u0645\u0645", "\u0635\u062d\u062d"]),
    (0xfd65, 0xfd67, ["\u0635\u062d\u062d", "\u0635\u0645\u0645", "\u0634\u062d\u0645"]),
    (0xfd68, 0xfd6a, ["\u0634\u062d\u0645", "\u0634\u062c\u064a", "\u0634\u0645\u062e"]),
    (0xfd6b, 0xfd6d, ["\u0634\u0645\u062e", "\u0634\u0645\u0645", "\u0634\u0645\u0645"]),
    (0xfd6e, 0xfd70, ["\u0636\u062d\u0649", "\u0636\u062e\u0645", "\u0636\u062e\u0645"]),
    (0xfd71, 0xfd73, ["\u0637\u0645\u062d", "\u0637\u0645\u062d", "\u0637\u0645\u0645"]),
    (0xfd74, 0xfd76, ["\u0637\u0645\u064a", "\u0639\u062c\u0645", "\u0639\u0645\u0645"]),
    (0xfd77, 0xfd79, ["\u0639\u0645\u0645", "\u0639\u0645\u0649", "\u063a\u0645\u0645"]),
    (0xfd7a, 0xfd7c, ["\u063a\u0645\u064a", "\u063a\u0645\u0649", "\u0641\u062e\u0645"]),
    (0xfd7d, 0xfd7f, ["\u0641\u062e\u0645", "\u0642\u0645\u062d", "\u0642\u0645\u0645"]),
    (0xfd80, 0xfd82, ["\u0644\u062d\u0645", "\u0644\u062d\u064a", "\u0644\u062d\u0649"]),
    (0xfd83, 0xfd85, ["\u0644\u062c\u062c", "\u0644\u062c\u062c", "\u0644\u062e\u0645"]),
    (0xfd86, 0xfd88, ["\u0644\u062e\u0645", "\u0644\u0645\u062d", "\u0644\u0645\u062d"]),
    (0xfd89, 0xfd8b, ["\u0645\u062d\u062c", "\u0645\u062d\u0645", "\u0645\u062d\u064a"]),
    (0xfd8c, 0xfd8e, ["\u0645\u062c\u062d", "\u0645\u062c\u0645", "\u0645\u062e\u062c"]),
    (0xfd8f, 0xfd8f, ["\u0645\u062e\u0645"]),
    (0xfd92, 0xfd94, ["\u0645\u062c\u062e", "\u0647\u0645\u062c", "\u0647\u0645\u0645"]),
    (0xfd95, 0xfd97, ["\u0646\u062d\u0645", "\u0646\u062d\u0649", "\u0646\u062c\u0645"]),
    (0xfd98, 0xfd9a, ["\u0646\u062c\u0645", "\u0646\u062c\u0649", "\u0646\u0645\u064a"]),
    (0xfd9b, 0xfd9d, ["\u0646\u0645\u0649", "\u064a\u0645\u0645", "\u064a\u0645\u0645"]),
    (0xfd9e, 0xfda0, ["\u0628\u062e\u064a", "\u062a\u062c\u064a", "\u062a\u062c\u0649"]),
    (0xfda1, 0xfda3, ["\u062a\u062e\u064a", "\u062a\u062e\u0649", "\u062a\u0645\u064a"]),
    (0xfda4, 0xfda6, ["\u062a\u0645\u0649", "\u062c\u0645\u064a", "\u062c\u062d\u0649"]),
    (0xfda7, 0xfda9, ["\u062c\u0645\u0649", "\u0633\u062e\u0649", "\u0635\u062d\u064a"]),
    (0xfdaa, 0xfdac, ["\u0634\u062d\u064a", "\u0636\u062d\u064a", "\u0644\u062c\u064a"]),
    (0xfdad, 0xfdaf, ["\u0644\u0645\u064a", "\u064a\u062d\u064a", "\u064a\u062c\u064a"]),
    (0xfdb0, 0xfdb2, ["\u064a\u0645\u064a", "\u0645\u0645\u064a", "\u0642\u0645\u064a"]),
    (0xfdb3, 0xfdb5, ["\u0646\u062d\u064a", "\u0642\u0645\u062d", "\u0644\u062d\u0645"]),
    (0xfdb6, 0xfdb8, ["\u0639\u0645\u064a", "\u0643\u0645\u064a", "\u0646\u062c\u062d"]),
    (0xfdb9, 0xfdbb, ["\u0645\u062e\u064a", "\u0644\u062c\u0645", "\u0643\u0645\u0645"]),
    (0xfdbc, 0xfdbe, ["\u0644\u062c\u0645", "\u0646\u062c\u062d", "\u062c\u062d\u064a"]),
    (0xfdbf, 0xfdc1, ["\u062d\u062c\u064a", "\u0645\u062c\u064a", "\u0641\u0645\u064a"]),
    (0xfdc2, 0xfdc4, ["\u0628\u062d\u064a", "\u0643\u0645\u0645", "\u0639\u062c\u0645"]),
    (0xfdc5, 0xfdc7, ["\u0635\u0645\u0645", "\u0633\u062e\u064a", "\u0646\u062c\u064a"]),
    (0xfdf0, 0xfdf2, ["\u0635\u0644\u06d2", "\u0642\u0644\u06d2", "\u0627\u0644\u0644\u0647"]),
    (0xfdf3, 0xfdf4, ["\u0627\u0643\u0628\u0631", "\u0645\u062d\u0645\u062f"]),
    (0xfdf5, 0xfdf6, ["\u0635\u0644\u0639\u0645", "\u0631\u0633\u0648\u0644"]),
    (0xfdf7, 0xfdf8, ["\u0639\u0644\u064a\u0647", "\u0648\u0633\u0644\u0645"]),
    (0xfdf9, 0xfdf9, ["\u0635\u0644\u0649"]),
    (0xfdfa, 0xfdfa,
      ["\u0635\u0644\u0649 \u0627\u0644\u0644\u0647 \u0639\u0644\u064a\u0647 \u0648\u0633\u0644\u0645"]),
    (0xfdfb, 0xfdfb, ["\u062c\u0644 \u062c\u0644\u0627\u0644\u0647"]),
    (0xfdfc, 0xfdfc, ["\u0631\u06cc\u0627\u0644"]),
    (0xfe49, 0xfe4c, [" \u0305", " \u0305", " \u0305", " \u0305"]),
    (0xfe70, 0xfe72, [" \u064b", "\u0640\u064b", " \u064c"]), (0xfe74, 0xfe74, [" \u064d"]),
    (0xfe76, 0xfe7a, [" \u064e", "\u0640\u064e", " \u064f", "\u0640\u064f", " \u0650"]),
    (0xfe7b, 0xfe7f, ["\u0640\u0650", " \u0651", "\u0640\u0651", " \u0652", "\u0640\u0652"]),
    (0xfef5, 0xfef8, ["\u0644\u0622", "\u0644\u0622", "\u0644\u0623", "\u0644\u0623"]),
    (0xfef9, 0xfefc, ["\u0644\u0625", "\u0644\u0625", "\u0644\u0627", "\u0644\u0627"]),
    (0xffe3, 0xffe3, [" \u0304"]),
    (0x1d15e, 0x1d164, ["𝅗𝅥", "𝅘𝅥", "𝅘𝅥𝅮", "𝅘𝅥𝅯", "𝅘𝅥𝅰", "𝅘𝅥𝅱", "𝅘𝅥𝅲"]),
    (0x1d1bb, 0x1d1c0, ["𝆹𝅥", "𝆺𝅥", "𝆹𝅥𝅮", "𝆺𝅥𝅮", "𝆹𝅥𝅯", "𝆺𝅥𝅯"]),
    (0x1f101, 0x1f10a, ["0,", "1,", "2,", "3,", "4,", "5,", "6,", "7,", "8,", "9,"]),
    (0x1f110, 0x1f119, ["(a)", "(b)", "(c)", "(d)", "(e)", "(f)", "(g)", "(h)", "(i)", "(j)"]),
    (0x1f11a, 0x1f123, ["(k)", "(l)", "(m)", "(n)", "(o)", "(p)", "(q)", "(r)", "(s)", "(t)"]),
    (0x1f124, 0x1f12a, ["(u)", "(v)", "(w)", "(x)", "(y)", "(z)", "〔s〕"]),
    (0x1f12d, 0x1f12e, ["cd", "wz"]), (0x1f14a, 0x1f14f, ["hv", "mv", "sd", "ss", "ppv", "wc"]),
    (0x1f16a, 0x1f16c, ["mc", "md", "mr"]), (0x1f190, 0x1f190, ["dj"]),
    (0x1f200, 0x1f201, ["ほか", "ココ"]),
    (0x1f240, 0x1f248, ["〔本〕", "〔三〕", "〔二〕", "〔安〕", "〔点〕", "〔打〕", "〔盗〕", "〔勝〕", "〔敗〕"])]

/-- The entry of the range that a code point is in, and how many code points precede it there. -/
def lookup? {α : Type} (n : Nat) (ranges : List (Nat × Nat × α)) : Option (Nat × α) :=
  (ranges.find? fun r => r.1 ≤ n && n ≤ r.2.1).map fun r => (n - r.1, r.2.2)

/-- What a character stands for. -/
def meaning (c : Char) : List Char :=
  let n := c.toNat
  if n < 0x80 then [c.toLower]
  else if Text.inRanges n uncounted then []
  else if inAlternating n alternatingCapitals then [.ofNat (n + 1)]
  else
    match lookup? n moved, lookup? n replaced, lookup? n spelled with
    | some (index, first), _, _ => [.ofNat (first + index)]
    | _, some (index, text), _ => text.toList[index]?.toList
    | _, _, some (index, texts) => (texts[index]?.getD "").toList
    | _, _, _ => [c]

end TextMate.Url.Label
