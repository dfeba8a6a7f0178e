/-!
# Folded characters

What stands for a character when case, width and other differences of form do not count. Characters
that other code points stand for stand in runs, each after the code point of its first one; in a run
there may be characters that stand for themselves.
-/

namespace SlideDeck.Text.Nameprep

/-- Runs of characters that one character stands for. -/
def foldings : List (Nat × String) :=
  [(0x41, "abcdefghijklmnopqrstuvwxyz"), (0xa0, " "), (0xaa, "a"), (0xb2, "23"), (0xb5, "μ"),
   (0xb9, "1o"), (0xc0, "àáâãäåæçèéêëìíîïðñòóôõö×øùúûüýþ"),
   (0x100, "āāăăąąććĉĉċċččďďđđēēĕĕėėęęěěĝĝğğġġģģĥĥħħĩĩīīĭĭį"), (0x134, "ĵĵķķĸĺĺļļľ"),
   (0x141, "łłńńņņň"),
   (0x14a, "ŋŋōōŏŏőőœœŕŕŗŗřřśśŝŝşşššţţťťŧŧũũūūŭŭůůűűųųŵŵŷŷÿźźżżžžsƀɓƃƃƅƅɔƈƈɖɗƌƌƍǝəɛƒƒɠɣƕɩɨƙƙ" ++
     "ƚƛɯɲƞɵơơƣƣƥƥʀƨƨʃƪƫƭƭʈưưʊʋƴƴƶƶʒƹƹƺƻƽ"),
   (0x1cd, "ǎǎǐǐǒǒǔǔǖǖǘǘǚǚǜǜǝǟǟǡǡǣǣǥǥǧǧǩǩǫǫǭǭǯ"),
   (0x1f4, "ǵǵƕƿǹǹǻǻǽǽǿǿȁȁȃȃȅȅȇȇȉȉȋȋȍȍȏȏȑȑȓȓȕȕȗȗșșțțȝȝȟȟƞȡȣȣȥȥȧȧȩȩȫȫȭȭȯȯȱȱȳ"),
   (0x23a, "ⱥȼȼƚⱦȿɀɂɂƀʉʌɇɇɉɉɋɋɍɍɏ"), (0x2b0, "hɦjrɹɻʁwy"), (0x2e0, "ɣlsxʕ"),
   (0x340, "\u0300\u0301\u0342\u0313"), (0x345, "ι"), (0x370, "ͱͱͳͳʹ͵ͷ"), (0x37e, ";ϳ"),
   (0x386, "ά·έήί"), (0x38c, "ό"), (0x38e, "ύώΐαβγδεζηθικλμνξοπρ"), (0x3a3, "στυφχψωϊϋ"),
   (0x3c2, "σ"),
   (0x3cf, "ϗβθυύϋφπϗϙϙϛϛϝϝϟϟϡϡϣϣϥϥϧϧϩϩϫϫϭϭϯϯκρσϳθε϶ϸϸσϻϻϼͻͼͽѐёђѓєѕіїјљњћќѝўџабвгдежзийклмно" ++
     "прстуфхцчшщъыьэюя"),
   (0x460, "ѡѡѣѣѥѥѧѧѩѩѫѫѭѭѯѯѱѱѳѳѵѵѷѷѹѹѻѻѽѽѿѿҁ"),
   (0x48a, "ҋҋҍҍҏҏґґғғҕҕҗҗҙҙққҝҝҟҟҡҡңңҥҥҧҧҩҩҫҫҭҭүүұұҳҳҵҵҷҷҹҹһһҽҽҿҿӏӂӂӄӄӆӆӈӈӊӊӌӌӎӎӏӑӑӓӓӕӕӗӗәә" ++
     "ӛӛӝӝӟӟӡӡӣӣӥӥӧӧөөӫӫӭӭӯӯӱӱӳӳӵӵӷӷӹӹӻӻӽӽӿӿԁԁԃԃԅԅԇԇԉԉԋԋԍԍԏԏԑԑԓԓԕԕԗԗԙԙԛԛԝԝԟԟԡԡԣԣԥԥԧԧԩԩ"),
   (0x52a, "ԫԫԭԭԯ"), (0x531, "աբգդեզէըթժիլխծկհձղճմյնշոչպջռսվտրցւփքօֆ"), (0xf0c, "་"),
   (0x10a0, "ⴀⴁⴂⴃⴄⴅⴆⴇⴈⴉⴊⴋⴌⴍⴎⴏⴐⴑⴒⴓⴔⴕⴖⴗⴘⴙⴚⴛⴜⴝⴞⴟⴠⴡⴢⴣⴤⴥ"), (0x10c7, "ⴧ"), (0x10cd, "ⴭ"),
   (0x13a0, "ꭰꭱꭲꭳꭴꭵꭶꭷꭸꭹꭺꭻꭼꭽꭾꭿꮀꮁꮂꮃꮄꮅꮆꮇꮈꮉꮊꮋꮌꮍꮎꮏꮐꮑꮒꮓꮔꮕꮖꮗꮘꮙꮚꮛꮜꮝꮞꮟꮠꮡꮢꮣꮤꮥꮦꮧꮨꮩꮪꮫꮬꮭꮮꮯꮰꮱꮲꮳꮴꮵꮶꮷꮸꮹꮺꮻꮼꮽꮾꮿ" ++
     "ᏸᏹᏺᏻᏼᏽ"),
   (0x1c90, "აბგდევზთიკლმნოპჟრსტუფქღყშჩცძწჭხჯჰჱჲჳჴჵჶჷჸჹჺ"), (0x1cbd, "ჽჾჿ"),
   (0x1e00, "ḁḁḃḃḅḅḇḇḉḉḋḋḍḍḏḏḑḑḓḓḕḕḗḗḙḙḛḛḝḝḟḟḡḡḣḣḥḥḧḧḩḩḫḫḭḭḯḯḱḱḳḳḵḵḷḷḹḹḻḻḽḽḿḿṁṁṃṃṅṅṇṇṉṉṋṋṍṍṏṏ" ++
     "ṑṑṓṓṕṕṗṗṙṙṛṛṝṝṟṟṡṡṣṣṥṥṧṧṩṩṫṫṭṭṯṯṱṱṳṳṵṵṷṷṹṹṻṻṽṽṿṿẁẁẃẃẅẅẇẇẉẉẋẋẍẍẏẏẑẑẓẓẕ"),
   (0x1e9b, "ṡ"),
   (0x1ea0, "ạạảảấấầầẩẩẫẫậậắắằằẳẳẵẵặặẹẹẻẻẽẽếếềềểểễễệệỉỉịịọọỏỏốốồồổổỗỗộộớớờờởởỡỡợợụụủủứứừừửửữữ" ++
     "ựựỳỳỵỵỷỷỹỹỻỻỽỽỿ"),
   (0x1f08, "ἀἁἂἃἄἅἆἇ"), (0x1f18, "ἐἑἒἓἔἕ"), (0x1f28, "ἠἡἢἣἤἥἦἧ"), (0x1f38, "ἰἱἲἳἴἵἶἷ"),
   (0x1f48, "ὀὁὂὃὄὅ"), (0x1f59, "ὑ"), (0x1f5b, "ὓ"), (0x1f5d, "ὕ"), (0x1f5f, "ὗ"),
   (0x1f68, "ὠὡὢὣὤὥὦὧὰάὲέὴήὶίὸόὺύὼώ"), (0x1fb8, "ᾰᾱὰά"), (0x1fbe, "ι"), (0x1fc8, "ὲέὴή"),
   (0x1fd3, "ΐ"), (0x1fd8, "ῐῑὶί"), (0x1fe3, "ΰ"), (0x1fe8, "ῠῡὺύῥ"), (0x1fef, "`"),
   (0x1ff8, "ὸόὼώ"), (0x2000, "           "), (0x2011, "‐"), (0x2024, "."), (0x202f, " "),
   (0x205f, " "), (0x2070, "0i"), (0x2074, "456789+−=()n0123456789+−=()"), (0x2102, "c"),
   (0x2107, "ɛ"), (0x210a, "ghhhhħiill℔n"), (0x2119, "pqrrr"),
   (0x2124, "z℥ω℧z℩kåbc℮eefⅎmoאבגדi℺℻ℼγγπ∑"), (0x2145, "ddeij"), (0x2160, "i"), (0x2164, "v"),
   (0x2169, "x"), (0x216c, "lcdmi"), (0x2174, "v"), (0x2179, "x"), (0x217c, "lcdmↀↁↂↄ"),
   (0x2329, "〈〉"), (0x2460, "123456789"),
   (0x24b6, "abcdefghijklmnopqrstuvwxyzabcdefghijklmnopqrstuvwxyz0"),
   (0x2c00, "ⰰⰱⰲⰳⰴⰵⰶⰷⰸⰹⰺⰻⰼⰽⰾⰿⱀⱁⱂⱃⱄⱅⱆⱇⱈⱉⱊⱋⱌⱍⱎⱏⱐⱑⱒⱓⱔⱕⱖⱗⱘⱙⱚⱛⱜⱝⱞⱟ"), (0x2c60, "ⱡⱡɫᵽɽⱥⱦⱨⱨⱪⱪⱬⱬɑɱɐɒⱱⱳⱳⱴⱶ"),
   (0x2c7e, "ȿɀⲁⲁⲃⲃⲅⲅⲇⲇⲉⲉⲋⲋⲍⲍⲏⲏⲑⲑⲓⲓⲕⲕⲗⲗⲙⲙⲛⲛⲝⲝⲟⲟⲡⲡⲣⲣⲥⲥⲧⲧⲩⲩⲫⲫⲭⲭⲯⲯⲱⲱⲳⲳⲵⲵⲷⲷⲹⲹⲻⲻⲽⲽⲿⲿⳁⳁⳃⳃⳅⳅⳇⳇⳉⳉⳋⳋⳍⳍ" ++
     "ⳏⳏⳑⳑⳓⳓⳕⳕⳗⳗⳙⳙⳛⳛⳝⳝⳟⳟⳡⳡⳣ"),
   (0x2ceb, "ⳬⳬⳮ"), (0x2cf2, "ⳳ"), (0x2e9f, "母"), (0x2ef3, "龟"),
   (0x2f00, "一丨丶丿乙亅二亠人儿入八冂冖冫几凵刀力勹匕匚匸十卜卩厂厶又口囗土士夂夊夕大女子宀寸小尢尸屮山巛工己巾干幺广廴廾弋弓彐彡彳心戈戶手支攴文斗斤方无日曰月木欠止歹殳毋" ++
     "比毛氏气水火爪父爻爿片牙牛犬玄玉瓜瓦甘生用田疋疒癶白皮皿目矛矢石示禸禾穴立竹米糸缶网羊羽老而耒耳聿肉臣自至臼舌舛舟艮色艸虍虫血行衣襾見角言谷豆豕豸貝赤走足身車辛"),
   (0x2fa0, "辰辵邑酉釆里金長門阜隶隹雨靑非面革韋韭音頁風飛食首香馬骨高髟鬥鬯鬲鬼魚鳥鹵鹿麥麻黃黍黑黹黽鼎鼓鼠鼻齊齒龍龜龠"), (0x3000, " "),
   (0x3036, "〒〷十卄卅"),
   (0x3131, "\u1100\u1101\u11aa\u1102\u11ac\u11ad\u1103\u1104\u1105\u11b0\u11b1\u11b2\u11b3" ++
     "\u11b4\u11b5\u111a\u1106\u1107\u1108\u1121\u1109\u110a\u110b\u110c\u110d\u110e\u110f" ++
     "\u1110\u1111\u1112\u1161\u1162\u1163\u1164\u1165\u1166\u1167\u1168\u1169\u116a\u116b" ++
     "\u116c\u116d\u116e\u116f\u1170\u1171\u1172\u1173\u1174\u1175\u1160\u1114\u1115\u11c7" ++
     "\u11c8\u11cc\u11ce\u11d3\u11d7\u11d9\u111c\u11dd\u11df\u111d\u111e\u1120\u1122\u1123" ++
     "\u1127\u1129\u112b\u112c\u112d\u112e\u112f\u1132\u1136\u1140\u1147\u114c\u11f1\u11f2" ++
     "\u1157\u1158\u1159\u1184\u1185\u1188\u1191\u1192\u1194\u119e\u11a1"),
   (0x3192, "一二三四上中下甲乙丙丁天地人"),
   (0x3260, "\u1100\u1102\u1103\u1105\u1106\u1107\u1109\u110b\u110c\u110e\u110f\u1110\u1111" ++
     "\u1112가나다라마바사아자차카타파하"),
   (0x3280, "一二三四五六七八九十月火水木金土日株有社名特財祝労秘男女適優印注項休写正上中下左右医宗学監企資協夜"),
   (0x32d0, "アイウエオカキクケコサシスセソタチツテトナニヌネノハヒフヘホマミムメモヤユヨラリルレロワヰヱヲ"),
   (0xa640, "ꙁꙁꙃꙃꙅꙅꙇꙇꙉꙉꙋꙋꙍꙍꙏꙏꙑꙑꙓꙓꙕꙕꙗꙗꙙꙙꙛꙛꙝꙝꙟꙟꙡꙡꙣꙣꙥꙥꙧꙧꙩꙩꙫꙫꙭ"),
   (0xa680, "ꚁꚁꚃꚃꚅꚅꚇꚇꚉꚉꚋꚋꚍꚍꚏꚏꚑꚑꚓꚓꚕꚕꚗꚗꚙꚙꚛ"),
   (0xa722, "ꜣꜣꜥꜥꜧꜧꜩꜩꜫꜫꜭꜭꜯꜯꜰꜱꜳꜳꜵꜵꜷꜷꜹꜹꜻꜻꜽꜽꜿꜿꝁꝁꝃꝃꝅꝅꝇꝇꝉꝉꝋꝋꝍꝍꝏꝏꝑꝑꝓꝓꝕꝕꝗꝗꝙꝙꝛꝛꝝꝝꝟꝟꝡꝡꝣꝣꝥꝥꝧꝧꝩꝩꝫꝫꝭꝭꝯ"),
   (0xa779, "ꝺꝺꝼꝼᵹꝿꝿꞁꞁꞃꞃꞅꞅꞇ"),
   (0xa78b, "ꞌꞌɥꞎꞏꞑꞑꞓꞓꞔꞕꞗꞗꞙꞙꞛꞛꞝꞝꞟꞟꞡꞡꞣꞣꞥꞥꞧꞧꞩꞩɦɜɡɬɪꞯʞʇʝꭓꞵꞵꞷꞷꞹꞹꞻꞻꞽꞽꞿꞿꟁꟁꟃꟃꞔʂᶎꟈꟈꟊ"), (0xa7d0, "ꟑ"),
   (0xa7d6, "ꟗꟗꟙ"), (0xa7f5, "ꟶ"),
   (0xf900, "豈更車賈滑串句龜龜契金喇奈懶癩羅蘿螺裸邏樂洛烙珞落酪駱亂卵欄爛蘭鸞嵐濫藍襤拉臘蠟廊朗浪狼郎來冷勞擄櫓爐盧老蘆虜路露魯鷺碌祿綠菉錄鹿論壟弄籠聾牢磊賂雷壘屢樓淚漏累" ++
     "縷陋勒肋凜凌稜綾菱陵讀拏樂諾丹寧怒率異北磻便復不泌數索參塞省葉說殺辰沈拾若掠略亮兩凉梁糧良諒量勵呂女廬旅濾礪閭驪麗黎力曆歷轢年憐戀撚漣煉璉秊練聯輦蓮連鍊列劣咽烈"),
   (0xf9a0, "裂說廉念捻殮簾獵令囹寧嶺怜玲瑩羚聆鈴零靈領例禮醴隸惡了僚寮尿料樂燎療蓼遼龍暈阮劉杻柳流溜琉留硫紐類六戮陸倫崙淪輪律慄栗率隆利吏履易李梨泥理痢罹裏裡里離匿溺吝燐璘" ++
     "藺隣鱗麟林淋臨立笠粒狀炙識什茶刺切度拓糖宅洞暴輻行降見廓兀嗀﨎﨏塚﨑晴﨓﨔凞猪益礼神祥福靖精羽﨟蘒﨡諸﨣﨤逸都﨧﨨﨩飯飼館鶴\ufa2e\ufa2f侮僧免勉勤卑喝嘆器塀墨層屮悔慨" ++
     "憎"),
   (0xfa40, "懲敏既暑梅海渚漢煮爫琢碑社祉祈祐祖祝禍禎穀突節練縉繁署者臭艹艹著褐視謁謹賓贈辶逸難響頻"), (0xfb20, "עאדהכלםרת+"),
   (0xfb50, "ٱٱٻٻٻٻپپپپڀڀڀڀٺٺٺٺٿٿٿٿٹٹٹٹڤڤڤڤڦڦڦڦڄڄڄڄڃڃڃڃچچچچڇڇڇڇڍڍڌڌڎڎڈڈژژڑڑککککگگگگڳڳڳڳڱڱڱڱںں" ++
     "ڻڻڻڻۀۀہہہہھھھھےےۓۓ"),
   (0xfbd3, "ڭڭڭڭۇۇۆۆۈۈ"), (0xfbde, "ۋۋۅۅۉۉېېېېىى"), (0xfbfc, "یییی"),
   (0xfe31, "—–__()\x7b\x7d〔〕【】《》〈〉「」『』"), (0xfe4d, "___,、."),
   (0xfe54, ";:?!—()\x7b\x7d〔〕#&*+-<>="), (0xfe68, "\\$%@"),
   (0xfe80, "ءآآأأؤؤإإئئئئااببببةةتتتتثثثثججججححححخخخخددذذررززسسسسششششصصصصضضضضططططظظظظععععغغغ" ++
     "غففففققققككككللللممممننننههههووىىيييي"),
   (0xff01, "!\"#$%&'()*+,-./0123456789:;<=>?@abcdefghijklmnopqrstuvwxyz[\\]^_`abcdefghijklmn" ++
     "opqrstuvwxyz\x7b|\x7d~⦅⦆。「」、・ヲァィゥェォャュョッーアイウエオカキクケコサシスセソタチツテトナニヌネノハヒフヘホマミムメモヤユヨラリルレロワン" ++
     "\u3099\u309a\u1160"),
   (0xffa1, "\u1100\u1101\u11aa\u1102\u11ac\u11ad\u1103\u1104\u1105\u11b0\u11b1\u11b2\u11b3" ++
     "\u11b4\u11b5\u111a\u1106\u1107\u1108\u1121\u1109\u110a\u110b\u110c\u110d\u110e\u110f" ++
     "\u1110\u1111\u1112"),
   (0xffc2, "\u1161\u1162\u1163\u1164\u1165\u1166"),
   (0xffca, "\u1167\u1168\u1169\u116a\u116b\u116c"),
   (0xffd2, "\u116d\u116e\u116f\u1170\u1171\u1172"), (0xffda, "\u1173\u1174\u1175"),
   (0xffe0, "¢£¬"), (0xffe4, "¦¥₩"), (0xffe8, "│←↑→↓■○"),
   (0x10400, "𐐨𐐩𐐪𐐫𐐬𐐭𐐮𐐯𐐰𐐱𐐲𐐳𐐴𐐵𐐶𐐷𐐸𐐹𐐺𐐻𐐼𐐽𐐾𐐿𐑀𐑁𐑂𐑃𐑄𐑅𐑆𐑇𐑈𐑉𐑊𐑋𐑌𐑍𐑎𐑏"),
   (0x104b0, "𐓘𐓙𐓚𐓛𐓜𐓝𐓞𐓟𐓠𐓡𐓢𐓣𐓤𐓥𐓦𐓧𐓨𐓩𐓪𐓫𐓬𐓭𐓮𐓯𐓰𐓱𐓲𐓳𐓴𐓵𐓶𐓷𐓸𐓹𐓺𐓻"), (0x10570, "𐖗𐖘𐖙𐖚𐖛𐖜𐖝𐖞𐖟𐖠𐖡"),
   (0x1057c, "𐖣𐖤𐖥𐖦𐖧𐖨𐖩𐖪𐖫𐖬𐖭𐖮𐖯𐖰𐖱"), (0x1058c, "𐖳𐖴𐖵𐖶𐖷𐖸𐖹"), (0x10594, "𐖻𐖼"),
   (0x10c80, "𐳀𐳁𐳂𐳃𐳄𐳅𐳆𐳇𐳈𐳉𐳊𐳋𐳌𐳍𐳎𐳏𐳐𐳑𐳒𐳓𐳔𐳕𐳖𐳗𐳘𐳙𐳚𐳛𐳜𐳝𐳞𐳟𐳠𐳡𐳢𐳣𐳤𐳥𐳦𐳧𐳨𐳩𐳪𐳫𐳬𐳭𐳮𐳯𐳰𐳱𐳲"),
   (0x118a0, "𑣀𑣁𑣂𑣃𑣄𑣅𑣆𑣇𑣈𑣉𑣊𑣋𑣌𑣍𑣎𑣏𑣐𑣑𑣒𑣓𑣔𑣕𑣖𑣗𑣘𑣙𑣚𑣛𑣜𑣝𑣞𑣟"), (0x16e40, "𖹠𖹡𖹢𖹣𖹤𖹥𖹦𖹧𖹨𖹩𖹪𖹫𖹬𖹭𖹮𖹯𖹰𖹱𖹲𖹳𖹴𖹵𖹶𖹷𖹸𖹹𖹺𖹻𖹼𖹽𖹾𖹿"),
   (0x1d400, "abcdefghijklmnopqrstuvwxyzabcdefghijklmnopqrstuvwxyzabcdefghijklmnopqrstuvwxyzab" ++
     "cdefg"),
   (0x1d456, "ijklmnopqrstuvwxyzabcdefghijklmnopqrstuvwxyzabcdefghijklmnopqrstuvwxyza"),
   (0x1d49e, "cd"), (0x1d4a2, "g"), (0x1d4a5, "jk"), (0x1d4a9, "nopq"), (0x1d4ae, "stuvwxyzabcd"),
   (0x1d4bb, "f"), (0x1d4bd, "hijk𝓁mn"),
   (0x1d4c5, "pqrstuvwxyzabcdefghijklmnopqrstuvwxyzabcdefghijklmnopqrstuvwxyzab"),
   (0x1d507, "defg"), (0x1d50d, "jklmnopq"), (0x1d516, "stuvwxy"),
   (0x1d51e, "abcdefghijklmnopqrstuvwxyzab"), (0x1d53b, "defg"), (0x1d540, "ijklm"), (0x1d546, "o"),
   (0x1d54a, "stuvwxy"),
   (0x1d552, "abcdefghijklmnopqrstuvwxyzabcdefghijklmnopqrstuvwxyzabcdefghijklmnopqrstuvwxyzab" ++
     "cdefghijklmnopqrstuvwxyzabcdefghijklmnopqrstuvwxyzabcdefghijklmnopqrstuvwxyzabcd"),
   (0x1d5f2, "efghijklmnopqrstuvwxyzabcdefghijklmnopqrstuvwxyzabcdefghijklmnopqrstuvwxyzabcdef" ++
     "ghijklmnopqrstuvwxyzabcdefghijklmnopqrstuvwxyzabcdefghijklmnopqrstuvwxyzabcdefgh"),
   (0x1d692, "ijklmnopqrstuvwxyz"),
   (0x1d6a8, "αβγδεζηθικλμνξοπρθστυφχψω∇αβγδεζηθικλμνξοπρσστυφχψω∂εθκφρπαβγδεζηθικλμνξοπρθστυφ" ++
     "χψω∇αβγδεζηθικλμνξοπρσστυφχψω∂εθκφρπαβγδεζηθικλμνξοπρθστυφχψω∇αβγδεζηθικλμνξοπρσ"),
   (0x1d748, "στυφχψω∂εθκφρπαβγδεζηθικλμνξοπρθστυφχψω∇αβγδεζηθικλμνξοπρσστυφχψω∂εθκφρπαβγδεζηθ" ++
     "ικλμνξοπρθστυφχψω∇αβγδεζηθικλμνξοπρσστυφχψω∂εθκφρπ"),
   (0x1d7ce, "01234567890123456789012345678901234567890123456789"),
   (0x1e900, "𞤢𞤣𞤤𞤥𞤦𞤧𞤨𞤩𞤪𞤫𞤬𞤭𞤮𞤯𞤰𞤱𞤲𞤳𞤴𞤵𞤶𞤷𞤸𞤹𞤺𞤻𞤼𞤽𞤾𞤿𞥀𞥁𞥂𞥃"),
   (0x2f800, "丽丸乁𠄢你侮侻倂偺備僧像㒞𠘺免兔兤具𠔜㒹內再𠕋冗冤仌冬况𩇟凵刃㓟刻剆割剷㔕勇勉勤勺包匆北卉卑博即卽卿卿卿𠨬灰及叟𠭣叫叱吆咞吸呈周咢哶唐啓啣善善喙喫喳嗂圖嘆圗噑噴" ++
     "切壮城埴堍型堲報墬𡓤売壷夆多夢奢𡚨𡛪姬娛娧姘婦㛮𡍪嬈嬾嬾𡧈寃寘寧寳𡬘寿将弳尢㞁屠屮峀岍𡷤嵃𡷦嵮嵫嵼巡巢㠯巽帨帽幩㡢𢆃㡼庰庳庶廊𪎒廾𢌱𢌱舁弢弢㣇𣊸𦇚形彫㣣徚忍志忹"),
   (0x2f8a0, "悁㤺㤜悔𢛔惇慈慌慎慌慺憎憲憤憯懞懲懶成戛扝抱拔捐𢬌挽拼捨掃揤𢯱搢揅掩㨮摩摾撝摷㩬敏敬𣀊旣書晉㬙暑㬈㫤冒冕最暜肭䏙朗望朡杞杓𣏃㭉柺枅桒梅𣑭梎栟椔㮝楂榣槪檨𣚣櫛㰘次" ++
     "𣢧歔㱎歲殟殺殻𣪍𡴋𣫺汎𣲼沿泍汧洖派海流浩浸涅𣴞洴港湮㴳滋滇𣻑淹潮𣽞𣾎濆瀹瀞瀛㶖灊災灷炭𠔥煅𤉣熜䎫爨爵牐𤘈犀犕𤜵𤠔獺王㺬玥㺸㺸瑇瑜瑱璅瓊㼛甤𤰶甾𤲒異𢆟瘐𤾡𤾸𥁄㿼䀈"),
   (0x2f940, "直𥃳𥃲𥄙𥄳眞真真睊䀹瞋䁆䂖𥐝硎碌磌䃣𥘦祖𥚚𥛅福秫䄯穀穊穏𥥼𥪧𥪧窮䈂𥮫篆築䈧𥲀糒䊠糨糣紀𥾆絣䌁緇縂繅䌴𦈨𦉇䍙𦋙罺𦌾羕翺者𦓚𦔣聠𦖨聰𣍟䏕育脃䐋脾媵𦞧𦞵𣎓𣎜舁舄辞䑫芑" ++
     "芋芝劳花芳芽苦𦬼若茝荣莭茣莽菧著荓菊菌菜𦰶𦵫𦳕䔫蓱蓳蔖𧏊蕤𦼬䕝䕡𦾱𧃒䕫虐虜虧虩蚩蚈蜎蛢蝹蜨蝫螆䵗蟡蠁䗹衠衣𧙧裗裞䘵裺㒻𧢮𧥦䚾䛇誠諭變豕𧲨貫賁贛起𧼯𠠄跋趼跰𠣞軔輸"),
   (0x2f9e0, "𨗒𨗭邔郱鄑𨜮鄛鈸鋗鋘鉼鏹鐕𨯺開䦕閷𨵷䧦雃嶲霣𩅅𩈚䩮䩶韠𩐊䪲𩒖頋頋頩𩖶飢䬳餩馧駂駾䯎𩬰鬒鱀鳽䳎䳭鵧𪃎䳸𪄅𪈎𪊑麻䵖黹黾鼅鼏鼖鼻𪘀")]

/-- Runs of characters that several characters stand for, with bars between what stands for one and
what stands for the next. -/
def expansions : List (Nat × String) :=
  [(0xa8, " \u0308"), (0xaf, " \u0304"), (0xb4, " \u0301"), (0xb8, " \u0327"),
   (0xbc, "1⁄4|1⁄2|3⁄4"), (0xdf, "ss"), (0x130, "i\u0307|ı|ij|ij"), (0x13f, "l·|l·"), (0x149, "ʼn"),
   (0x1c4, "dž|dž|dž|lj|lj|lj|nj|nj|nj"), (0x1f1, "dz|dz|dz"),
   (0x2d8, " \u0306| \u0307| \u030a| \u0328| \u0303| \u030b"), (0x344, "\u0308\u0301"),
   (0x37a, " ι"), (0x384, " \u0301| \u0308\u0301"), (0x587, "եւ"), (0x675, "اٴ|وٴ|ۇٴ|يٴ"),
   (0x958, "क\u093c|ख\u093c|ग\u093c|ज\u093c|ड\u093c|ढ\u093c|फ\u093c|य\u093c"),
   (0x9dc, "ড\u09bc|ঢ\u09bc"), (0x9df, "য\u09bc"), (0xa33, "ਲ\u0a3c"), (0xa36, "ਸ\u0a3c"),
   (0xa59, "ਖ\u0a3c|ਗ\u0a3c|ਜ\u0a3c"), (0xa5e, "ਫ\u0a3c"), (0xb5c, "ଡ\u0b3c|ଢ\u0b3c"),
   (0xe33, "\u0e4dา"), (0xeb3, "\u0ecdາ"), (0xedc, "ຫນ|ຫມ"), (0xf43, "ག\u0fb7"), (0xf4d, "ཌ\u0fb7"),
   (0xf52, "ད\u0fb7"), (0xf57, "བ\u0fb7"), (0xf5c, "ཛ\u0fb7"), (0xf69, "ཀ\u0fb5"),
   (0xf73, "\u0f71\u0f72|\u0f74|\u0f71\u0f74|\u0fb2\u0f80|\u0fb2\u0f71\u0f80|\u0fb3\u0f80|" ++
     "\u0fb3\u0f71\u0f80"),
   (0xf81, "\u0f71\u0f80"), (0xf93, "\u0f92\u0fb7"), (0xf9d, "\u0f9c\u0fb7"),
   (0xfa2, "\u0fa1\u0fb7"), (0xfa7, "\u0fa6\u0fb7"), (0xfac, "\u0fab\u0fb7"),
   (0xfb9, "\u0f90\u0fb5"), (0x1e9a, "aʾ"), (0x1e9e, "ss"),
   (0x1f80, "ἀι|ἁι|ἂι|ἃι|ἄι|ἅι|ἆι|ἇι|ἀι|ἁι|ἂι|ἃι|ἄι|ἅι|ἆι|ἇι|ἠι|ἡι|ἢι|ἣι|ἤι|ἥι|ἦι|ἧι|ἠι|ἡι|ἢι" ++
     "|ἣι|ἤι|ἥι|ἦι|ἧι|ὠι|ὡι|ὢι|ὣι|ὤι|ὥι|ὦι|ὧι"),
   (0x1fa8, "ὠι|ὡι|ὢι|ὣι|ὤι|ὥι|ὦι|ὧι|ᾰ|ᾱ|ὰι|αι|άι"), (0x1fb7, "ᾶι"), (0x1fbc, "αι| \u0313"),
   (0x1fbf, " \u0313| \u0342| \u0308\u0342|ὴι|ηι|ήι"), (0x1fc7, "ῆι"),
   (0x1fcc, "ηι| \u0313\u0300| \u0313\u0301| \u0313\u0342"),
   (0x1fdd, " \u0314\u0300| \u0314\u0301| \u0314\u0342"), (0x1fed, " \u0308\u0300| \u0308\u0301"),
   (0x1ff2, "ὼι|ωι|ώι"), (0x1ff7, "ῶι"), (0x1ffc, "ωι| \u0301| \u0314"), (0x2017, " \u0333"),
   (0x2025, "..|..."), (0x2033, "′′|′′′|‵|‵‵|‵‵‵"), (0x203c, "!!|‽| \u0305"), (0x2047, "??|?!|!?"),
   (0x2057, "′′′′"), (0x20a8, "rs"), (0x2100, "a/c|a/s"), (0x2103, "°c|℄|c/o|c/u"), (0x2109, "°f"),
   (0x2116, "no"), (0x2120, "sm|tel|tm"),
   (0x2153, "1⁄3|2⁄3|1⁄5|2⁄5|3⁄5|4⁄5|1⁄6|5⁄6|1⁄8|3⁄8|5⁄8|7⁄8|1⁄"), (0x2161, "ii|iii|iv"),
   (0x2165, "vi|vii|viii|ix"), (0x216a, "xi|xii"), (0x2171, "ii|iii|iv"),
   (0x2175, "vi|vii|viii|ix"), (0x217a, "xi|xii"), (0x222c, "∫∫|∫∫∫|∮|∮∮|∮∮∮"),
   (0x2469, "10|11|12|13|14|15|16|17|18|19|20|(1)|(2)|(3)|(4)|(5)|(6)|(7)|(8)|(9)|(10)|(11)|(" ++
     "12)|(13)|(14)|(15)|(16)|(17)|(18)|(19)|(20)|1.|2.|3.|4.|5.|6.|7.|8.|9."),
   (0x2491, "10.|11.|12.|13.|14.|15.|16.|17.|18.|19.|20.|(a)|(b)|(c)|(d)|(e)|(f)|(g)|(h)|(i)|" ++
     "(j)|(k)|(l)|(m)|(n)|(o)|(p)|(q)|(r)|(s)|(t)|(u)|(v)|(w)|(x)|(y)|(z)"),
   (0x2a0c, "∫∫∫∫"), (0x2a74, "::=|==|==="), (0x2adc, "⫝\u0338"),
   (0x309b, " \u3099| \u309a|ゝ|ゞ|より"), (0x30ff, "コト"),
   (0x3200, "(\u1100)|(\u1102)|(\u1103)|(\u1105)|(\u1106)|(\u1107)|(\u1109)|(\u110b)|(\u110c)" ++
     "|(\u110e)|(\u110f)|(\u1110)|(\u1111)|(\u1112)|(가)|(나)|(다)|(라)|(마)|(바)|(사)|(아)|(자)|(차)|(카)" ++
     "|(타)|(파)|(하)|(주)"),
   (0x3220, "(一)|(二)|(三)|(四)|(五)|(六)|(七)|(八)|(九)|(十)|(月)|(火)|(水)|(木)|(金)|(土)|(日)|(株)|(有)|(社)|" ++
     "(名)|(特)|(財)|(祝)|(労)|(代)|(呼)|(学)|(監)|(企)|(資)|(協)|(祭)|(休)|(自)|(至)"),
   (0x3251, "21|22|23|24|25|26|27|28|29|30|31|32|33|34|35"),
   (0x32b1, "36|37|38|39|40|41|42|43|44|45|46|47|48|49|50|1月|2月|3月|4月|5月|6月|7月|8月|9月|10月|11月|" ++
     "12月"),
   (0x3300, "アパート|アルファ|アンペア|アール|イニング|インチ|ウォン|エスクード|エーカー|オンス|オーム|カイリ|カラット|カロリー|ガロン|ガンマ|ギガ|ギニー|" ++
     "キュリー|ギルダー|キロ|キログラム|キロメートル|キロワット|グラム|グラムトン|クルゼイロ|クローネ|ケース|コルナ|コーポ|サイクル|サンチーム|シリング|センチ|セント|" ++
     "ダース|デシ|ドル|トン"),
   (0x3328, "ナノ|ノット|ハイツ|パーセント|パーツ|バーレル|ピアストル|ピクル|ピコ|ビル|ファラッド|フィート|ブッシェル|フラン|ヘクタール|ペソ|ペニヒ|ヘルツ|" ++
     "ペンス|ページ|ベータ|ポイント|ボルト|ホン|ポンド|ホール|ホーン|マイクロ|マイル|マッハ|マルク|マンション|ミクロン|ミリ|ミリバール|メガ|メガトン|メートル|ヤード" ++
     "|ヤール"),
   (0x3350, "ユアン|リットル|リラ|ルピー|ルーブル|レム|レントゲン|ワット|0点|1点|2点|3点|4点|5点|6点|7点|8点|9点|10点|11点|12点|13点|" ++
     "14点|15点|16点|17点|18点|19点|20点|21点|22点|23点|24点|hpa|da|au|bar|ov|pc"),
   (0x337b, "平成|昭和|大正|明治|株式会社|pa|na|μa|ma|ka|kb|mb|gb|cal|kcal|pf|nf|μf|μg|mg|kg|hz|khz|mhz|g" ++
     "hz|thz|μl|ml|dl|kl|fm|nm|μm|mm|cm|km|mm2|cm2|m2|km2"),
   (0x33a3, "mm3|cm3|m3|km3|m∕s|m∕s2|pa|kpa|mpa|gpa|rad|rad∕s|rad∕s2|ps|ns|μs|ms|pv|nv|μv|mv|" ++
     "kv|mv|pw|nw|μw|mw|kw|mw|kω|mω|a.m.|bq|cc|cd|c∕kg|co.|db|gy|ha"),
   (0x33cb, "hp|in|kk|km|kt|lm|ln|log|lx|mb|mil|mol|ph|p.m.|ppm|pr|sr|sv|wb|㏞|㏟|1日|2日|3日|4日|5" ++
     "日|6日|7日|8日|9日|10日|11日|12日|13日|14日|15日|16日|17日|18日|19日"),
   (0x33f3, "20日|21日|22日|23日|24日|25日|26日|27日|28日|29日|30日|31日"), (0xfb00, "ff|fi|fl|ffi|ffl|st|st"),
   (0xfb13, "մն|մե|մի|վն|մխ"), (0xfb1d, "י\u05b4|\ufb1e|ײ\u05b7"),
   (0xfb2a, "ש\u05c1|ש\u05c2|ש\u05bc\u05c1|ש\u05bc\u05c2|א\u05b7|א\u05b8|א\u05bc|ב\u05bc|ג" ++
     "\u05bc|ד\u05bc|ה\u05bc|ו\u05bc|ז\u05bc"),
   (0xfb38, "ט\u05bc|י\u05bc|ך\u05bc|כ\u05bc|ל\u05bc"), (0xfb3e, "מ\u05bc"),
   (0xfb40, "נ\u05bc|ס\u05bc"), (0xfb43, "ף\u05bc|פ\u05bc"),
   (0xfb46, "צ\u05bc|ק\u05bc|ר\u05bc|ש\u05bc|ת\u05bc|ו\u05b9|ב\u05bf|כ\u05bf|פ\u05bf|אל"),
   (0xfbdd, "ۇٴ"), (0xfbea, "ئا|ئا|ئە|ئە|ئو|ئو|ئۇ|ئۇ|ئۆ|ئۆ|ئۈ|ئۈ|ئې|ئې|ئې|ئى|ئى|ئى"),
   (0xfc00, "ئج|ئح|ئم|ئى|ئي|بج|بح|بخ|بم|بى|بي|تج|تح|تخ|تم|تى|تي|ثج|ثم|ثى|ثي|جح|جم|حج|حم|خج|خح" ++
     "|خم|سج|سح|سخ|سم|صح|صم|ضج|ضح|ضخ|ضم|طح|طم"),
   (0xfc28, "ظم|عج|عم|غج|غم|فج|فح|فخ|فم|فى|في|قح|قم|قى|قي|كا|كج|كح|كخ|كل|كم|كى|كي|لج|لح|لخ|لم" ++
     "|لى|لي|مج|مح|مخ|مم|مى|مي|نج|نح|نخ|نم|نى"),
   (0xfc50, "ني|هج|هم|هى|هي|يج|يح|يخ|يم|يى|يي|ذ\u0670|ر\u0670|ى\u0670| \u064c\u0651| \u064d" ++
     "\u0651| \u064e\u0651| \u064f\u0651| \u0650\u0651| \u0651\u0670|ئر|ئز|ئم|ئن|ئى|ئي|بر|بز|بم" ++
     "|بن|بى|بي|تر|تز|تم|تن|تى|تي|ثر|ثز"),
   (0xfc78, "ثم|ثن|ثى|ثي|فى|في|قى|قي|كا|كل|كم|كى|كي|لم|لى|لي|ما|مم|نر|نز|نم|نن|نى|ني|ى\u0670|" ++
     "ير|يز|يم|ين|يى|يي|ئج|ئح|ئخ|ئم|ئه|بج|بح|بخ|بم"),
   (0xfca0, "به|تج|تح|تخ|تم|ته|ثم|جح|جم|حج|حم|خج|خم|سج|سح|سخ|سم|صح|صخ|صم|ضج|ضح|ضخ|ضم|طح|ظم|عج" ++
     "|عم|غج|غم|فج|فح|فخ|فم|قح|قم|كج|كح|كخ|كل"),
   (0xfcc8, "كم|لج|لح|لخ|لم|له|مج|مح|مخ|مم|نج|نح|نخ|نم|نه|هج|هم|ه\u0670|يج|يح|يخ|يم|يه|ئم|ئه|" ++
     "بم|به|تم|ته|ثم|ثه|سم|سه|شم|شه|كل|كم|لم|نم|نه"),
   (0xfcf0, "يم|يه|ـ\u064e\u0651|ـ\u064f\u0651|ـ\u0650\u0651|طى|طي|عى|عي|غى|غي|سى|سي|شى|شي|حى" ++
     "|حي|جى|جي|خى|خي|صى|صي|ضى|ضي|شج|شح|شخ|شم|شر|سر|صر|ضر|طى|طي|عى|عي|غى|غي|سى"),
   (0xfd18, "سي|شى|شي|حى|حي|جى|جي|خى|خي|صى|صي|ضى|ضي|شج|شح|شخ|شم|شر|سر|صر|ضر|شج|شح|شخ|شم|سه|شه" ++
     "|طم|سج|سح|سخ|شج|شح|شخ|طم|ظم|ا\u064b|ا\u064b"),
   (0xfd50, "تجم|تحج|تحج|تحم|تخم|تمج|تمح|تمخ|جمح|جمح|حمي|حمى|سحج|سجح|سجى|سمح|سمح|سمج|سمم|سمم|" ++
     "صحح|صحح|صمم|شحم|شحم|شجي|شمخ|شمخ|شمم|شمم|ضحى|ضخم|ضخم|طمح|طمح|طمم|طمي|عجم|عمم|عمم"),
   (0xfd78, "عمى|غمم|غمي|غمى|فخم|فخم|قمح|قمم|لحم|لحي|لحى|لجج|لجج|لخم|لخم|لمح|لمح|محج|محم|محي|" ++
     "مجح|مجم|مخج|مخم"),
   (0xfd92, "مجخ|همج|همم|نحم|نحى|نجم|نجم|نجى|نمي|نمى|يمم|يمم|بخي|تجي|تجى|تخي|تخى|تمي|تمى|جمي|" ++
     "جحى|جمى|سخى|صحي|شحي|ضحي|لجي|لمي|يحي|يجي|يمي|ممي|قمي|نحي|قمح|لحم|عمي|كمي|نجح|مخي"),
   (0xfdba, "لجم|كمم|لجم|نجح|جحي|حجي|مجي|فمي|بحي|كمم|عجم|صمم|سخي|نجي"),
   (0xfdf0, "صلے|قلے|الله|اكبر|محمد|صلعم|رسول|عليه|وسلم|صلى|صلى الله عليه وسلم|جل جلاله|ریال"),
   (0xfe30, ".."), (0xfe49, " \u0305| \u0305| \u0305| \u0305"),
   (0xfe70, " \u064b|ـ\u064b| \u064c|ﹳ| \u064d"),
   (0xfe76, " \u064e|ـ\u064e| \u064f|ـ\u064f| \u0650|ـ\u0650| \u0651|ـ\u0651| \u0652|ـ\u0652"),
   (0xfef5, "لآ|لآ|لأ|لأ|لإ|لإ|لا|لا"), (0xffe3, " \u0304"), (0x1d15e, "𝅗𝅥|𝅘𝅥|𝅘𝅥𝅮|𝅘𝅥𝅯|𝅘𝅥𝅰|𝅘𝅥𝅱|𝅘𝅥𝅲"),
   (0x1d1bb, "𝆹𝅥|𝆺𝅥|𝆹𝅥𝅮|𝆺𝅥𝅮|𝆹𝅥𝅯|𝆺𝅥𝅯")]

/-- The first and the last code points of characters that are left out. -/
def ignored : List (Nat × Nat) :=
  [(0xad, 0xad), (0x34f, 0x34f), (0x1806, 0x1806), (0x180b, 0x180d), (0x200b, 0x200d),
   (0x2060, 0x2060), (0xfe00, 0xfe0f), (0xfeff, 0xfeff)]

end SlideDeck.Text.Nameprep
