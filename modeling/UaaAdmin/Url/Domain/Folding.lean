import UaaAdmin.Text.LetterCase
import UaaAdmin.Url.Domain.Joiner

/-!
# Folding of characters

What stands in a domain name for a character that was typed: capitals become small letters, wide,
raised, circled and other styled forms the plain ones, and ligatures their parts. Some characters
are left out, and some no domain name may hold. `foldChar?_ascii` says what becomes of the plain
ones.
-/

namespace UaaAdmin.Url.Domain

open UaaAdmin.Text

/-- A run of code points `first, …, last`, with what stands for each of them, in order and parted by
blanks. A run that has more code points than forms goes through the forms again. -/
structure FoldedRun where
  first : Nat
  last : Nat
  forms : String

/-- The folded form of the code point `n` of the run. -/
def FoldedRun.form? (r : FoldedRun) (n : Nat) : Option (List Char) :=
  let forms := r.forms.toList.splitOn ' '
  forms[(n - r.first) % forms.length]?

/-- The run holds the code point `n`. -/
def FoldedRun.has (r : FoldedRun) (n : Nat) : Bool :=
  r.first ≤ n && n ≤ r.last

/-- The runs of code points whose folded forms are listed. -/
def foldedRuns : List FoldedRun := [
  ⟨0xaa, 0xaa, "a"⟩, ⟨0xb2, 0xb3, "2 3"⟩, ⟨0xb5, 0xb5, "μ"⟩, ⟨0xb9, 0xba, "1 o"⟩,
  ⟨0xbc, 0xbe, "1⁄4 1⁄2 3⁄4"⟩, ⟨0x130, 0x130, "i̇"⟩, ⟨0x132, 0x133, "ij ij"⟩,
  ⟨0x13f, 0x140, "l· l·"⟩, ⟨0x149, 0x149, "ʼn"⟩, ⟨0x17f, 0x17f, "s"⟩,
  ⟨0x1c4, 0x1cc, "dž dž dž lj lj lj nj nj nj"⟩, ⟨0x1f1, 0x1f3, "dz dz dz"⟩,
  ⟨0x2b0, 0x2b8, "h ɦ j r ɹ ɻ ʁ w y"⟩, ⟨0x2e0, 0x2e4, "ɣ l s x ʕ"⟩, ⟨0x340, 0x341, "\u0300 \u0301"⟩,
  ⟨0x343, 0x345, "\u0313 \u0308\u0301 ι"⟩, ⟨0x374, 0x374, "ʹ"⟩, ⟨0x37e, 0x37e, ";"⟩,
  ⟨0x387, 0x387, "·"⟩, ⟨0x3d0, 0x3d6, "β θ υ ύ ϋ φ π"⟩, ⟨0x3f0, 0x3f2, "κ ρ σ"⟩,
  ⟨0x3f5, 0x3f5, "ε"⟩, ⟨0x3f9, 0x3f9, "σ"⟩, ⟨0x558, 0x558, "է"⟩, ⟨0x587, 0x587, "եւ"⟩,
  ⟨0x58c, 0x58c, "յ"⟩, ⟨0x675, 0x678, "اٴ وٴ ۇٴ يٴ"⟩,
  ⟨0x958, 0x95f, "क़ ख़ ग़ ज़ ड़ ढ़ फ़ य़"⟩, ⟨0x9dc, 0x9dd, "ড় ঢ়"⟩, ⟨0x9df, 0x9df, "য়"⟩,
  ⟨0xa33, 0xa33, "ਲ਼"⟩, ⟨0xa36, 0xa36, "ਸ਼"⟩, ⟨0xa59, 0xa5b, "ਖ਼ ਗ਼ ਜ਼"⟩, ⟨0xa5e, 0xa5e, "ਫ਼"⟩,
  ⟨0xb5c, 0xb5d, "ଡ଼ ଢ଼"⟩, ⟨0xe33, 0xe33, "\u0e4dา"⟩, ⟨0xeb3, 0xeb3, "\u0ecdາ"⟩,
  ⟨0xedc, 0xedd, "ຫນ ຫມ"⟩, ⟨0xf0c, 0xf0c, "་"⟩, ⟨0xf43, 0xf43, "གྷ"⟩, ⟨0xf4d, 0xf4d, "ཌྷ"⟩,
  ⟨0xf52, 0xf52, "དྷ"⟩, ⟨0xf57, 0xf57, "བྷ"⟩, ⟨0xf5c, 0xf5c, "ཛྷ"⟩, ⟨0xf69, 0xf69, "ཀྵ"⟩,
  ⟨0xf73, 0xf73, "\u0f71\u0f72"⟩,
  ⟨0xf75, 0xf79, "\u0f71\u0f74 \u0fb2\u0f80 \u0fb2\u0f71\u0f80 \u0fb3\u0f80 \u0fb3\u0f71\u0f80"⟩,
  ⟨0xf81, 0xf81, "\u0f71\u0f80"⟩, ⟨0xf93, 0xf93, "\u0f92\u0fb7"⟩, ⟨0xf9d, 0xf9d, "\u0f9c\u0fb7"⟩,
  ⟨0xfa2, 0xfa2, "\u0fa1\u0fb7"⟩, ⟨0xfa7, 0xfa7, "\u0fa6\u0fb7"⟩, ⟨0xfac, 0xfac, "\u0fab\u0fb7"⟩,
  ⟨0xfb9, 0xfb9, "\u0f90\u0fb5"⟩, ⟨0x10fc, 0x10fc, "ნ"⟩, ⟨0x13f8, 0x13fd, "Ᏸ Ᏹ Ᏺ Ᏻ Ᏼ Ᏽ"⟩,
  ⟨0x1c80, 0x1c88, "в д о с т т ъ ѣ ꙋ"⟩, ⟨0x1d2c, 0x1d2e, "a æ b"⟩,
  ⟨0x1d30, 0x1d3a, "d e ǝ g h i j k l m n"⟩,
  ⟨0x1d3c, 0x1d4d, "o ȣ p r t u w a ɐ ɑ ᴂ b d e ə ɛ ɜ g"⟩,
  ⟨0x1d4f, 0x1d6a, "k m ŋ o ɔ ᴖ ᴗ p t u ᴝ ɯ v ᴥ β γ δ φ χ i r u v β γ ρ φ χ"⟩,
  ⟨0x1d78, 0x1d78, "н"⟩,
  ⟨0x1d9b, 0x1dbf, "ɒ c ɕ ð ɜ f ɟ ɡ ɥ ɨ ɩ ɪ ᵻ ʝ ɭ ᶅ ʟ ɱ ɰ ɲ ɳ ɴ ɵ ɸ ʂ ʃ ƫ ʉ ʊ ᴜ ʋ ʌ z ʐ ʑ ʒ θ"⟩,
  ⟨0x1e9a, 0x1e9b, "aʾ ṡ"⟩, ⟨0x1f71, 0x1f71, "ά"⟩, ⟨0x1f73, 0x1f73, "έ"⟩, ⟨0x1f75, 0x1f75, "ή"⟩,
  ⟨0x1f77, 0x1f77, "ί"⟩, ⟨0x1f79, 0x1f79, "ό"⟩, ⟨0x1f7b, 0x1f7b, "ύ"⟩, ⟨0x1f7d, 0x1f7d, "ώ"⟩,
  ⟨0x1f80, 0x1f99, "ἀι ἁι ἂι ἃι ἄι ἅι ἆι ἇι ἀι ἁι ἂι ἃι ἄι ἅι ἆι ἇι ἠι ἡι ἢι ἣι ἤι ἥι ἦι ἧι ἠι ἡι"⟩,
  ⟨0x1f9a, 0x1faf, "ἢι ἣι ἤι ἥι ἦι ἧι ὠι ὡι ὢι ὣι ὤι ὥι ὦι ὧι ὠι ὡι ὢι ὣι ὤι ὥι ὦι ὧι"⟩,
  ⟨0x1fb2, 0x1fb4, "ὰι αι άι"⟩, ⟨0x1fb7, 0x1fb7, "ᾶι"⟩, ⟨0x1fbb, 0x1fbc, "ά αι"⟩,
  ⟨0x1fbe, 0x1fbe, "ι"⟩, ⟨0x1fc2, 0x1fc4, "ὴι ηι ήι"⟩, ⟨0x1fc7, 0x1fc7, "ῆι"⟩,
  ⟨0x1fc9, 0x1fc9, "έ"⟩, ⟨0x1fcb, 0x1fcc, "ή ηι"⟩, ⟨0x1fd3, 0x1fd3, "ΐ"⟩, ⟨0x1fdb, 0x1fdb, "ί"⟩,
  ⟨0x1fe3, 0x1fe3, "ΰ"⟩, ⟨0x1feb, 0x1feb, "ύ"⟩, ⟨0x1fef, 0x1fef, "\x60"⟩,
  ⟨0x1ff2, 0x1ff4, "ὼι ωι ώι"⟩, ⟨0x1ff7, 0x1ff7, "ῶι"⟩, ⟨0x1ff9, 0x1ff9, "ό"⟩,
  ⟨0x1ffb, 0x1ffc, "ώ ωι"⟩, ⟨0x2011, 0x2011, "‐"⟩, ⟨0x2033, 0x2034, "′′ ′′′"⟩,
  ⟨0x2036, 0x2037, "‵‵ ‵‵‵"⟩, ⟨0x203c, 0x203c, "!!"⟩, ⟨0x2047, 0x2049, "?? ?! !?"⟩,
  ⟨0x2057, 0x2057, "′′′′"⟩, ⟨0x2070, 0x2071, "0 i"⟩,
  ⟨0x2074, 0x208e, "4 5 6 7 8 9 + − = ( ) n 0 1 2 3 4 5 6 7 8 9 + − = ( )"⟩,
  ⟨0x2090, 0x209f, "a e o x ə h k l m n p s t w y z"⟩, ⟨0x20a8, 0x20a8, "rs"⟩,
  ⟨0x2100, 0x2103, "a/c a/s c °c"⟩, ⟨0x2105, 0x2107, "c/o c/u ɛ"⟩,
  ⟨0x2109, 0x2113, "°f g h h h h ħ i i l l"⟩, ⟨0x2115, 0x2116, "n no"⟩,
  ⟨0x2119, 0x211d, "p q r r r"⟩, ⟨0x2120, 0x2122, "sm tel tm"⟩, ⟨0x2124, 0x2124, "z"⟩,
  ⟨0x2128, 0x2128, "z"⟩, ⟨0x212c, 0x212d, "b c"⟩, ⟨0x212f, 0x2131, "e e f"⟩,
  ⟨0x2133, 0x2139, "m o א ב ג ד i"⟩, ⟨0x213b, 0x2140, "fax π γ γ π ∑"⟩,
  ⟨0x2145, 0x2149, "d d e i j"⟩,
  ⟨0x2150, 0x2164, "1⁄7 1⁄9 1⁄10 1⁄3 2⁄3 1⁄5 2⁄5 3⁄5 4⁄5 1⁄6 5⁄6 1⁄8 3⁄8 5⁄8 7⁄8 1⁄ i ii iii iv v"⟩,
  ⟨0x2165, 0x217f, "vi vii viii ix x xi xii l c d m i ii iii iv v vi vii viii ix x xi xii l c d m"⟩,
  ⟨0x2189, 0x2189, "0⁄3"⟩, ⟨0x222c, 0x222d, "∫∫ ∫∫∫"⟩, ⟨0x222f, 0x2230, "∮∮ ∮∮∮"⟩,
  ⟨0x2329, 0x232a, "〈 〉"⟩,
  ⟨0x2460, 0x2479, "1 2 3 4 5 6 7 8 9 10 11 12 13 14 15 16 17 18 19 20 (1) (2) (3) (4) (5) (6)"⟩,
  ⟨0x247a, 0x2487, "(7) (8) (9) (10) (11) (12) (13) (14) (15) (16) (17) (18) (19) (20)"⟩,
  ⟨0x249c, 0x24ae, "(a) (b) (c) (d) (e) (f) (g) (h) (i) (j) (k) (l) (m) (n) (o) (p) (q) (r) (s)"⟩,
  ⟨0x24af, 0x24b5, "(t) (u) (v) (w) (x) (y) (z)"⟩,
  ⟨0x24b6, 0x24e9, "a b c d e f g h i j k l m n o p q r s t u v w x y z"⟩, ⟨0x24ea, 0x24ea, "0"⟩,
  ⟨0x2a0c, 0x2a0c, "∫∫∫∫"⟩, ⟨0x2a74, 0x2a76, "::= == ==="⟩, ⟨0x2adc, 0x2adc, "⫝̸"⟩,
  ⟨0x2c7c, 0x2c7d, "j v"⟩, ⟨0x2d6f, 0x2d6f, "ⵡ"⟩, ⟨0x2e9f, 0x2e9f, "母"⟩, ⟨0x2ef3, 0x2ef3, "龟"⟩,
  ⟨0x2f00, 0x2f26, "一 丨 丶 丿 乙 亅 二 亠 人 儿 入 八 冂 冖 冫 几 凵 刀 力 勹 匕 匚 匸 十 卜 卩 厂 厶 又 口 囗 土 士 夂 夊 夕 大 女 子"⟩,
  ⟨0x2f27, 0x2f4d, "宀 寸 小 尢 尸 屮 山 巛 工 己 巾 干 幺 广 廴 廾 弋 弓 彐 彡 彳 心 戈 戶 手 支 攴 文 斗 斤 方 无 日 曰 月 木 欠 止 歹"⟩,
  ⟨0x2f4e, 0x2f74, "殳 毋 比 毛 氏 气 水 火 爪 父 爻 爿 片 牙 牛 犬 玄 玉 瓜 瓦 甘 生 用 田 疋 疒 癶 白 皮 皿 目 矛 矢 石 示 禸 禾 穴 立"⟩,
  ⟨0x2f75, 0x2f9b, "竹 米 糸 缶 网 羊 羽 老 而 耒 耳 聿 肉 臣 自 至 臼 舌 舛 舟 艮 色 艸 虍 虫 血 行 衣 襾 見 角 言 谷 豆 豕 豸 貝 赤 走"⟩,
  ⟨0x2f9c, 0x2fc2, "足 身 車 辛 辰 辵 邑 酉 釆 里 金 長 門 阜 隶 隹 雨 靑 非 面 革 韋 韭 音 頁 風 飛 食 首 香 馬 骨 高 髟 鬥 鬯 鬲 鬼 魚"⟩,
  ⟨0x2fc3, 0x2fd5, "鳥 鹵 鹿 麥 麻 黃 黍 黑 黹 黽 鼎 鼓 鼠 鼻 齊 齒 龍 龜 龠"⟩, ⟨0x3002, 0x3002, "."⟩,
  ⟨0x3036, 0x3036, "〒"⟩, ⟨0x3038, 0x303a, "十 卄 卅"⟩, ⟨0x309f, 0x309f, "より"⟩, ⟨0x30ff, 0x30ff, "コト"⟩,
  ⟨0x3131, 0x3157, "ᄀ ᄁ ᆪ ᄂ ᆬ ᆭ ᄃ ᄄ ᄅ ᆰ ᆱ ᆲ ᆳ ᆴ ᆵ ᄚ ᄆ ᄇ ᄈ ᄡ ᄉ ᄊ ᄋ ᄌ ᄍ ᄎ ᄏ ᄐ ᄑ ᄒ ᅡ ᅢ ᅣ ᅤ ᅥ ᅦ ᅧ ᅨ ᅩ"⟩,
  ⟨0x3158, 0x3163, "ᅪ ᅫ ᅬ ᅭ ᅮ ᅯ ᅰ ᅱ ᅲ ᅳ ᅴ ᅵ"⟩,
  ⟨0x3165, 0x318b, "ᄔ ᄕ ᇇ ᇈ ᇌ ᇎ ᇓ ᇗ ᇙ ᄜ ᇝ ᇟ ᄝ ᄞ ᄠ ᄢ ᄣ ᄧ ᄩ ᄫ ᄬ ᄭ ᄮ ᄯ ᄲ ᄶ ᅀ ᅇ ᅌ ᇱ ᇲ ᅗ ᅘ ᅙ ᆄ ᆅ ᆈ ᆑ ᆒ"⟩,
  ⟨0x318c, 0x318e, "ᆔ ᆞ ᆡ"⟩, ⟨0x3192, 0x319f, "一 二 三 四 上 中 下 甲 乙 丙 丁 天 地 人"⟩,
  ⟨0x3200, 0x3212, "(ᄀ) (ᄂ) (ᄃ) (ᄅ) (ᄆ) (ᄇ) (ᄉ) (ᄋ) (ᄌ) (ᄎ) (ᄏ) (ᄐ) (ᄑ) (ᄒ) (가) (나) (다) (라) (마)"⟩,
  ⟨0x3213, 0x321e, "(바) (사) (아) (자) (차) (카) (타) (파) (하) (주) (오전) (오후)"⟩,
  ⟨0x3220, 0x3232, "(一) (二) (三) (四) (五) (六) (七) (八) (九) (十) (月) (火) (水) (木) (金) (土) (日) (株) (有)"⟩,
  ⟨0x3233, 0x3247, "(社) (名) (特) (財) (祝) (労) (代) (呼) (学) (監) (企) (資) (協) (祭) (休) (自) (至) 問 幼 文 箏"⟩,
  ⟨0x3250, 0x326d, "pte 21 22 23 24 25 26 27 28 29 30 31 32 33 34 35 ᄀ ᄂ ᄃ ᄅ ᄆ ᄇ ᄉ ᄋ ᄌ ᄎ ᄏ ᄐ ᄑ ᄒ"⟩,
  ⟨0x326e, 0x327e, "가 나 다 라 마 바 사 아 자 차 카 타 파 하 참고 주의 우"⟩,
  ⟨0x3280, 0x32a6, "一 二 三 四 五 六 七 八 九 十 月 火 水 木 金 土 日 株 有 社 名 特 財 祝 労 秘 男 女 適 優 印 注 項 休 写 正 上 中 下"⟩,
  ⟨0x32a7, 0x32c3, "左 右 医 宗 学 監 企 資 協 夜 36 37 38 39 40 41 42 43 44 45 46 47 48 49 50 1月 2月 3月 4月"⟩,
  ⟨0x32c4, 0x32e1, "5月 6月 7月 8月 9月 10月 11月 12月 hg erg ev ltd ア イ ウ エ オ カ キ ク ケ コ サ シ ス セ ソ タ チ ツ"⟩,
  ⟨0x32e2, 0x3302, "テ ト ナ ニ ヌ ネ ノ ハ ヒ フ ヘ ホ マ ミ ム メ モ ヤ ユ ヨ ラ リ ル レ ロ ワ ヰ ヱ ヲ 令和 アパート アルファ アンペア"⟩,
  ⟨0x3303, 0x3314, "アール イニング インチ ウォン エスクード エーカー オンス オーム カイリ カラット カロリー ガロン ガンマ ギガ ギニー キュリー ギルダー キロ"⟩,
  ⟨0x3315, 0x3323, "キログラム キロメートル キロワット グラム グラムトン クルゼイロ クローネ ケース コルナ コーポ サイクル サンチーム シリング センチ セント"⟩,
  ⟨0x3324, 0x3335, "ダース デシ ドル トン ナノ ノット ハイツ パーセント パーツ バーレル ピアストル ピクル ピコ ビル ファラッド フィート ブッシェル フラン"⟩,
  ⟨0x3336, 0x3347, "ヘクタール ペソ ペニヒ ヘルツ ペンス ページ ベータ ポイント ボルト ホン ポンド ホール ホーン マイクロ マイル マッハ マルク マンション"⟩,
  ⟨0x3348, 0x335a, "ミクロン ミリ ミリバール メガ メガトン メートル ヤード ヤール ユアン リットル リラ ルピー ルーブル レム レントゲン ワット 0点 1点 2点"⟩,
  ⟨0x335b, 0x336f, "3点 4点 5点 6点 7点 8点 9点 10点 11点 12点 13点 14点 15点 16点 17点 18点 19点 20点 21点 22点 23点"⟩,
  ⟨0x3370, 0x3386, "24点 hpa da au bar ov pc dm dm2 dm3 iu 平成 昭和 大正 明治 株式会社 pa na μa ma ka kb mb"⟩,
  ⟨0x3387, 0x339d, "gb cal kcal pf nf μf μg mg kg hz khz mhz ghz thz μl ml dl kl fm nm μm mm cm"⟩,
  ⟨0x339e, 0x33b0, "km mm2 cm2 m2 km2 mm3 cm3 m3 km3 m∕s m∕s2 pa kpa mpa gpa rad rad∕s rad∕s2 ps"⟩,
  ⟨0x33b1, 0x33c1, "ns μs ms pv nv μv mv kv mv pw nw μw mw kw mw kω mω"⟩,
  ⟨0x33c3, 0x33c6, "bq cc cd c∕kg"⟩,
  ⟨0x33c8, 0x33d7, "db gy ha hp in kk km kt lm ln log lx mb mil mol ph"⟩,
  ⟨0x33d9, 0x33ee, "ppm pr sr sv wb v∕m a∕m 1日 2日 3日 4日 5日 6日 7日 8日 9日 10日 11日 12日 13日 14日 15日"⟩,
  ⟨0x33ef, 0x33ff, "16日 17日 18日 19日 20日 21日 22日 23日 24日 25日 26日 27日 28日 29日 30日 31日 gal"⟩,
  ⟨0xa69c, 0xa69d, "ъ ь"⟩, ⟨0xa770, 0xa770, "ꝯ"⟩, ⟨0xa7dd, 0xa7dd, "ɷ"⟩, ⟨0xa7e2, 0xa7e2, "ɼ"⟩,
  ⟨0xa7f1, 0xa7f4, "s c f q"⟩, ⟨0xa7f8, 0xa7f9, "ħ œ"⟩, ⟨0xab5c, 0xab5f, "ꜧ ꬷ ɫ ꭒ"⟩,
  ⟨0xab69, 0xab69, "ʍ"⟩, ⟨0xab6c, 0xab6d, "ꭋ ꭌ"⟩,
  ⟨0xf900, 0xf926, "豈 更 車 賈 滑 串 句 龜 龜 契 金 喇 奈 懶 癩 羅 蘿 螺 裸 邏 樂 洛 烙 珞 落 酪 駱 亂 卵 欄 爛 蘭 鸞 嵐 濫 藍 襤 拉 臘"⟩,
  ⟨0xf927, 0xf94d, "蠟 廊 朗 浪 狼 郎 來 冷 勞 擄 櫓 爐 盧 老 蘆 虜 路 露 魯 鷺 碌 祿 綠 菉 錄 鹿 論 壟 弄 籠 聾 牢 磊 賂 雷 壘 屢 樓 淚"⟩,
  ⟨0xf94e, 0xf974, "漏 累 縷 陋 勒 肋 凜 凌 稜 綾 菱 陵 讀 拏 樂 諾 丹 寧 怒 率 異 北 磻 便 復 不 泌 數 索 參 塞 省 葉 說 殺 辰 沈 拾 若"⟩,
  ⟨0xf975, 0xf99b, "掠 略 亮 兩 凉 梁 糧 良 諒 量 勵 呂 女 廬 旅 濾 礪 閭 驪 麗 黎 力 曆 歷 轢 年 憐 戀 撚 漣 煉 璉 秊 練 聯 輦 蓮 連 鍊"⟩,
  ⟨0xf99c, 0xf9c2, "列 劣 咽 烈 裂 說 廉 念 捻 殮 簾 獵 令 囹 寧 嶺 怜 玲 瑩 羚 聆 鈴 零 靈 領 例 禮 醴 隸 惡 了 僚 寮 尿 料 樂 燎 療 蓼"⟩,
  ⟨0xf9c3, 0xf9e9, "遼 龍 暈 阮 劉 杻 柳 流 溜 琉 留 硫 紐 類 六 戮 陸 倫 崙 淪 輪 律 慄 栗 率 隆 利 吏 履 易 李 梨 泥 理 痢 罹 裏 裡 里"⟩,
  ⟨0xf9ea, 0xfa0d, "離 匿 溺 吝 燐 璘 藺 隣 鱗 麟 林 淋 臨 立 笠 粒 狀 炙 識 什 茶 刺 切 度 拓 糖 宅 洞 暴 輻 行 降 見 廓 兀 嗀"⟩,
  ⟨0xfa10, 0xfa10, "塚"⟩, ⟨0xfa12, 0xfa12, "晴"⟩, ⟨0xfa15, 0xfa1e, "凞 猪 益 礼 神 祥 福 靖 精 羽"⟩,
  ⟨0xfa20, 0xfa20, "蘒"⟩, ⟨0xfa22, 0xfa22, "諸"⟩, ⟨0xfa25, 0xfa26, "逸 都"⟩,
  ⟨0xfa2a, 0xfa50, "飯 飼 館 鶴 郞 隷 侮 僧 免 勉 勤 卑 喝 嘆 器 塀 墨 層 屮 悔 慨 憎 懲 敏 既 暑 梅 海 渚 漢 煮 爫 琢 碑 社 祉 祈 祐 祖"⟩,
  ⟨0xfa51, 0xfa6d, "祝 禍 禎 穀 突 節 練 縉 繁 署 者 臭 艹 艹 著 褐 視 謁 謹 賓 贈 辶 逸 難 響 頻 恵 𤋮 舘"⟩,
  ⟨0xfa70, 0xfa96, "並 况 全 侀 充 冀 勇 勺 喝 啕 喙 嗢 塚 墳 奄 奔 婢 嬨 廒 廙 彩 徭 惘 慎 愈 憎 慠 懲 戴 揄 搜 摒 敖 晴 朗 望 杖 歹 殺"⟩,
  ⟨0xfa97, 0xfabd, "流 滛 滋 漢 瀞 煮 瞧 爵 犯 猪 瑱 甆 画 瘝 瘟 益 盛 直 睊 着 磌 窱 節 类 絛 練 缾 者 荒 華 蝹 襁 覆 視 調 諸 請 謁 諾"⟩,
  ⟨0xfabe, 0xfad9, "諭 謹 變 贈 輸 遲 醙 鉶 陼 難 靖 韛 響 頋 頻 鬒 龜 𢡊 𢡄 𣏕 㮝 䀘 䀹 𥉉 𥳐 𧻓 齃 龎"⟩,
  ⟨0xfb00, 0xfb06, "ff fi fl ffi ffl st st"⟩, ⟨0xfb13, 0xfb17, "մն մե մի վն մխ"⟩,
  ⟨0xfb1d, 0xfb1d, "יִ"⟩,
  ⟨0xfb1f, 0xfb36, "ײַ ע א ד ה כ ל ם ר ת + שׁ שׂ שּׁ שּׂ אַ אָ אּ בּ גּ דּ הּ וּ זּ"⟩,
  ⟨0xfb38, 0xfb3c, "טּ יּ ךּ כּ לּ"⟩, ⟨0xfb3e, 0xfb3e, "מּ"⟩, ⟨0xfb40, 0xfb41, "נּ סּ"⟩,
  ⟨0xfb43, 0xfb44, "ףּ פּ"⟩,
  ⟨0xfb46, 0xfb67, "צּ קּ רּ שּ תּ וֹ בֿ כֿ פֿ אל ٱ ٱ ٻ ٻ ٻ ٻ پ پ پ پ ڀ ڀ ڀ ڀ ٺ ٺ ٺ ٺ ٿ ٿ ٿ ٿ ٹ ٹ"⟩,
  ⟨0xfb68, 0xfb8e, "ٹ ٹ ڤ ڤ ڤ ڤ ڦ ڦ ڦ ڦ ڄ ڄ ڄ ڄ ڃ ڃ ڃ ڃ چ چ چ چ ڇ ڇ ڇ ڇ ڍ ڍ ڌ ڌ ڎ ڎ ڈ ڈ ژ ژ ڑ ڑ ک"⟩,
  ⟨0xfb8f, 0xfbb1, "ک ک ک گ گ گ گ ڳ ڳ ڳ ڳ ڱ ڱ ڱ ڱ ں ں ڻ ڻ ڻ ڻ ۀ ۀ ہ ہ ہ ہ ھ ھ ھ ھ ے ے ۓ ۓ"⟩,
  ⟨0xfbd3, 0xfbf3, "ڭ ڭ ڭ ڭ ۇ ۇ ۆ ۆ ۈ ۈ ۇٴ ۋ ۋ ۅ ۅ ۉ ۉ ې ې ې ې ى ى ئا ئا ئە ئە ئو ئو ئۇ ئۇ ئۆ ئۆ"⟩,
  ⟨0xfbf4, 0xfc0e, "ئۈ ئۈ ئې ئې ئې ئى ئى ئى ی ی ی ی ئج ئح ئم ئى ئي بج بح بخ بم بى بي تج تح تخ تم"⟩,
  ⟨0xfc0f, 0xfc28, "تى تي ثج ثم ثى ثي جح جم حج حم خج خح خم سج سح سخ سم صح صم ضج ضح ضخ ضم طح طم ظم"⟩,
  ⟨0xfc29, 0xfc42, "عج عم غج غم فج فح فخ فم فى في قح قم قى قي كا كج كح كخ كل كم كى كي لج لح لخ لم"⟩,
  ⟨0xfc43, 0xfc5c, "لى لي مج مح مخ مم مى مي نج نح نخ نم نى ني هج هم هى هي يج يح يخ يم يى يي ذٰ رٰ"⟩,
  ⟨0xfc5d, 0xfc5d, "ىٰ"⟩,
  ⟨0xfc64, 0xfc7d, "ئر ئز ئم ئن ئى ئي بر بز بم بن بى بي تر تز تم تن تى تي ثر ثز ثم ثن ثى ثي فى في"⟩,
  ⟨0xfc7e, 0xfc97, "قى قي كا كل كم كى كي لم لى لي ما مم نر نز نم نن نى ني ىٰ ير يز يم ين يى يي ئج"⟩,
  ⟨0xfc98, 0xfcb1, "ئح ئخ ئم ئه بج بح بخ بم به تج تح تخ تم ته ثم جح جم حج حم خج خم سج سح سخ سم صح"⟩,
  ⟨0xfcb2, 0xfccb, "صخ صم ضج ضح ضخ ضم طح ظم عج عم غج غم فج فح فخ فم قح قم كج كح كخ كل كم لج لح لخ"⟩,
  ⟨0xfccc, 0xfce5, "لم له مج مح مخ مم نج نح نخ نم نه هج هم هٰ يج يح يخ يم يه ئم ئه بم به تم ته ثم"⟩,
  ⟨0xfce6, 0xfcfe, "ثه سم سه شم شه كل كم لم نم نه يم يه ـَّ ـُّ ـِّ طى طي عى عي غى غي سى سي شى شي"⟩,
  ⟨0xfcff, 0xfd18, "حى حي جى جي خى خي صى صي ضى ضي شج شح شخ شم شر سر صر ضر طى طي عى عي غى غي سى سي"⟩,
  ⟨0xfd19, 0xfd32, "شى شي حى حي جى جي خى خي صى صي ضى ضي شج شح شخ شم شر سر صر ضر شج شح شخ شم سه شه"⟩,
  ⟨0xfd33, 0xfd3d, "طم سج سح سخ شج شح شخ طم ظم اً اً"⟩,
  ⟨0xfd50, 0xfd62, "تجم تحج تحج تحم تخم تمج تمح تمخ جمح جمح حمي حمى سحج سجح سجى سمح سمح سمج سمم"⟩,
  ⟨0xfd63, 0xfd75, "سمم صحح صحح صمم شحم شحم شجي شمخ شمخ شمم شمم ضحى ضخم ضخم طمح طمح طمم طمي عجم"⟩,
  ⟨0xfd76, 0xfd88, "عمم عمم عمى غمم غمي غمى فخم فخم قمح قمم لحم لحي لحى لجج لجج لخم لخم لمح لمح"⟩,
  ⟨0xfd89, 0xfd8f, "محج محم محي مجح مجم مخج مخم"⟩,
  ⟨0xfd92, 0xfda4, "مجخ همج همم نحم نحى نجم نجم نجى نمي نمى يمم يمم بخي تجي تجى تخي تخى تمي تمى"⟩,
  ⟨0xfda5, 0xfdb7, "جمي جحى جمى سخى صحي شحي ضحي لجي لمي يحي يجي يمي ممي قمي نحي قمح لحم عمي كمي"⟩,
  ⟨0xfdb8, 0xfdc7, "نجح مخي لجم كمم لجم نجح جحي حجي مجي فمي بحي كمم عجم صمم سخي نجي"⟩,
  ⟨0xfdf0, 0xfdf9, "صلے قلے الله اكبر محمد صلعم رسول عليه وسلم صلى"⟩, ⟨0xfdfc, 0xfdfc, "ریال"⟩,
  ⟨0xfe10, 0xfe11, ", 、"⟩, ⟨0xfe13, 0xfe18, ": ; ! ? 〖 〗"⟩,
  ⟨0xfe31, 0xfe44, "— – _ _ ( ) \x7b \x7d 〔 〕 【 】 《 》 〈 〉 「 」 『 』"⟩, ⟨0xfe47, 0xfe48, "[ ]"⟩,
  ⟨0xfe4d, 0xfe51, "_ _ _ , 、"⟩, ⟨0xfe54, 0xfe66, "; : ? ! — ( ) \x7b \x7d 〔 〕 # & * + - < > ="⟩,
  ⟨0xfe68, 0xfe6b, "\x5c $ % @"⟩, ⟨0xfe71, 0xfe71, "ـً"⟩, ⟨0xfe77, 0xfe77, "ـَ"⟩,
  ⟨0xfe79, 0xfe79, "ـُ"⟩, ⟨0xfe7b, 0xfe7b, "ـِ"⟩, ⟨0xfe7d, 0xfe7d, "ـّ"⟩,
  ⟨0xfe7f, 0xfea4, "ـْ ء آ آ أ أ ؤ ؤ إ إ ئ ئ ئ ئ ا ا ب ب ب ب ة ة ت ت ت ت ث ث ث ث ج ج ج ج ح ح ح ح"⟩,
  ⟨0xfea5, 0xfecb, "خ خ خ خ د د ذ ذ ر ر ز ز س س س س ش ش ش ش ص ص ص ص ض ض ض ض ط ط ط ط ظ ظ ظ ظ ع ع ع"⟩,
  ⟨0xfecc, 0xfef2, "ع غ غ غ غ ف ف ف ف ق ق ق ق ك ك ك ك ل ل ل ل م م م م ن ن ن ن ه ه ه ه و و ى ى ي ي"⟩,
  ⟨0xfef3, 0xfefc, "ي ي لآ لآ لأ لأ لإ لإ لا لا"⟩,
  ⟨0xff5f, 0xff85, "⦅ ⦆ . 「 」 、 ・ ヲ ァ ィ ゥ ェ ォ ャ ュ ョ ッ ー ア イ ウ エ オ カ キ ク ケ コ サ シ ス セ ソ タ チ ツ テ ト ナ"⟩,
  ⟨0xff86, 0xff9f, "ニ ヌ ネ ノ ハ ヒ フ ヘ ホ マ ミ ム メ モ ヤ ユ ヨ ラ リ ル レ ロ ワ ン \u3099 \u309a"⟩,
  ⟨0xffa1, 0xffbe, "ᄀ ᄁ ᆪ ᄂ ᆬ ᆭ ᄃ ᄄ ᄅ ᆰ ᆱ ᆲ ᆳ ᆴ ᆵ ᄚ ᄆ ᄇ ᄈ ᄡ ᄉ ᄊ ᄋ ᄌ ᄍ ᄎ ᄏ ᄐ ᄑ ᄒ"⟩,
  ⟨0xffc2, 0xffc7, "ᅡ ᅢ ᅣ ᅤ ᅥ ᅦ"⟩, ⟨0xffca, 0xffcf, "ᅧ ᅨ ᅩ ᅪ ᅫ ᅬ"⟩, ⟨0xffd2, 0xffd7, "ᅭ ᅮ ᅯ ᅰ ᅱ ᅲ"⟩,
  ⟨0xffda, 0xffdc, "ᅳ ᅴ ᅵ"⟩, ⟨0xffe0, 0xffe2, "¢ £ ¬"⟩, ⟨0xffe4, 0xffe6, "¦ ¥ ₩"⟩,
  ⟨0xffe8, 0xffee, "│ ← ↑ → ↓ ■ ○"⟩, ⟨0x10781, 0x10785, "ː ˑ æ ʙ ɓ"⟩,
  ⟨0x10787, 0x107ac, "ʣ ꭦ ʥ ʤ ɖ ɗ ᶑ ɘ ɞ ʩ ɤ ɢ ɠ ʛ ħ ʜ ɧ ʄ ʪ ʫ ɬ 𝼄 ꞎ ɮ 𝼅 ʎ 𝼆 ø ɶ ɷ q ɺ 𝼈 ɽ ɾ ʀ ʨ ʦ"⟩,
  ⟨0x107ad, 0x107b0, "ꭧ ʧ ʈ ⱱ"⟩, ⟨0x107b2, 0x107bb, "ʏ ʡ ʢ ʘ ǀ ǁ ǂ 𝼊 𝼞 ʇ"⟩,
  ⟨0x1b125, 0x1b125, "トテ"⟩,
  ⟨0x1ccd6, 0x1ccef, "a b c d e f g h i j k l m n o p q r s t u v w x y z"⟩,
  ⟨0x1ccf0, 0x1ccf9, "0 1 2 3 4 5 6 7 8 9"⟩, ⟨0x1d15e, 0x1d164, "𝅗𝅥 𝅘𝅥 𝅘𝅥𝅮 𝅘𝅥𝅯 𝅘𝅥𝅰 𝅘𝅥𝅱 𝅘𝅥𝅲"⟩,
  ⟨0x1d1bb, 0x1d1c0, "𝆹𝅥 𝆺𝅥 𝆹𝅥𝅮 𝆺𝅥𝅮 𝆹𝅥𝅯 𝆺𝅥𝅯"⟩,
  ⟨0x1d400, 0x1d6a3, "a b c d e f g h i j k l m n o p q r s t u v w x y z"⟩,
  ⟨0x1d6a4, 0x1d6a6, "ı ȷ ss"⟩,
  ⟨0x1d6a8, 0x1d7c9, "α β γ δ ε ζ η θ ι κ λ μ ν ξ ο π ρ θ σ τ υ φ χ ψ ω ∇ "
    ++ "α β γ δ ε ζ η θ ι κ λ μ ν ξ ο π ρ σ σ τ υ φ χ ψ ω ∂ ε θ κ φ ρ π"⟩,
  ⟨0x1d7ca, 0x1d7cb, "ϝ ϝ"⟩, ⟨0x1d7ce, 0x1d7ff, "0 1 2 3 4 5 6 7 8 9"⟩,
  ⟨0x1e030, 0x1e055, "а б в г д е ж з и к л м о п р с т у ф х ц ч ш ы э ю ꚉ ә і ј ө ү ӏ а б в г д"⟩,
  ⟨0x1e056, 0x1e06d, "е ж з и к л о п с у ф х ц ч ш ъ ы ґ і ѕ џ ҫ ꙑ ұ"⟩,
  ⟨0x1ee00, 0x1ee03, "ا ب ج د"⟩,
  ⟨0x1ee05, 0x1ee1f, "و ز ح ط ي ك ل م ن س ع ف ص ق ر ش ت ث خ ذ ض ظ غ ٮ ں ڡ ٯ"⟩,
  ⟨0x1ee21, 0x1ee22, "ب ج"⟩, ⟨0x1ee24, 0x1ee24, "ه"⟩, ⟨0x1ee27, 0x1ee27, "ح"⟩,
  ⟨0x1ee29, 0x1ee32, "ي ك ل م ن س ع ف ص ق"⟩, ⟨0x1ee34, 0x1ee37, "ش ت ث خ"⟩, ⟨0x1ee39, 0x1ee39, "ض"⟩,
  ⟨0x1ee3b, 0x1ee3b, "غ"⟩, ⟨0x1ee42, 0x1ee42, "ج"⟩, ⟨0x1ee47, 0x1ee47, "ح"⟩,
  ⟨0x1ee49, 0x1ee49, "ي"⟩, ⟨0x1ee4b, 0x1ee4b, "ل"⟩, ⟨0x1ee4d, 0x1ee4f, "ن س ع"⟩,
  ⟨0x1ee51, 0x1ee52, "ص ق"⟩, ⟨0x1ee54, 0x1ee54, "ش"⟩, ⟨0x1ee57, 0x1ee57, "خ"⟩,
  ⟨0x1ee59, 0x1ee59, "ض"⟩, ⟨0x1ee5b, 0x1ee5b, "غ"⟩, ⟨0x1ee5d, 0x1ee5d, "ں"⟩,
  ⟨0x1ee5f, 0x1ee5f, "ٯ"⟩, ⟨0x1ee61, 0x1ee62, "ب ج"⟩, ⟨0x1ee64, 0x1ee64, "ه"⟩,
  ⟨0x1ee67, 0x1ee6a, "ح ط ي ك"⟩, ⟨0x1ee6c, 0x1ee72, "م ن س ع ف ص ق"⟩, ⟨0x1ee74, 0x1ee77, "ش ت ث خ"⟩,
  ⟨0x1ee79, 0x1ee7c, "ض ظ غ ٮ"⟩, ⟨0x1ee7e, 0x1ee7e, "ڡ"⟩, ⟨0x1ee80, 0x1ee89, "ا ب ج د ه و ز ح ط ي"⟩,
  ⟨0x1ee8b, 0x1ee9b, "ل م ن س ع ف ص ق ر ش ت ث خ ذ ض ظ غ"⟩, ⟨0x1eea1, 0x1eea3, "ب ج د"⟩,
  ⟨0x1eea5, 0x1eea9, "و ز ح ط ي"⟩, ⟨0x1eeab, 0x1eebb, "ل م ن س ع ف ص ق ر ش ت ث خ ذ ض ظ غ"⟩,
  ⟨0x1f101, 0x1f10a, "0, 1, 2, 3, 4, 5, 6, 7, 8, 9,"⟩,
  ⟨0x1f110, 0x1f122, "(a) (b) (c) (d) (e) (f) (g) (h) (i) (j) (k) (l) (m) (n) (o) (p) (q) (r) (s)"⟩,
  ⟨0x1f123, 0x1f12e, "(t) (u) (v) (w) (x) (y) (z) 〔s〕 c r cd wz"⟩,
  ⟨0x1f130, 0x1f149, "a b c d e f g h i j k l m n o p q r s t u v w x y z"⟩,
  ⟨0x1f14a, 0x1f14f, "hv mv sd ss ppv wc"⟩, ⟨0x1f16a, 0x1f16c, "mc md mr"⟩,
  ⟨0x1f190, 0x1f190, "dj"⟩, ⟨0x1f200, 0x1f202, "ほか ココ サ"⟩,
  ⟨0x1f210, 0x1f235, "手 字 双 デ 二 多 解 天 交 映 無 料 前 後 再 新 初 終 生 販 声 吹 演 投 捕 一 三 遊 左 中 右 指 走 打 禁 空 合 満"⟩,
  ⟨0x1f236, 0x1f23b, "有 月 申 割 営 配"⟩, ⟨0x1f240, 0x1f248, "〔本〕 〔三〕 〔二〕 〔安〕 〔点〕 〔打〕 〔盗〕 〔勝〕 〔敗〕"⟩,
  ⟨0x1f250, 0x1f251, "得 可"⟩, ⟨0x1fbf0, 0x1fbf9, "0 1 2 3 4 5 6 7 8 9"⟩,
  ⟨0x2f800, 0x2f825, "丽 丸 乁 𠄢 你 侮 侻 倂 偺 備 僧 像 㒞 𠘺 免 兔 兤 具 𠔜 㒹 內 再 𠕋 冗 冤 仌 冬 况 𩇟 凵 刃 㓟 刻 剆 割 剷 㔕 勇"⟩,
  ⟨0x2f826, 0x2f84b, "勉 勤 勺 包 匆 北 卉 卑 博 即 卽 卿 卿 卿 𠨬 灰 及 叟 𠭣 叫 叱 吆 咞 吸 呈 周 咢 哶 唐 啓 啣 善 善 喙 喫 喳 嗂 圖"⟩,
  ⟨0x2f84c, 0x2f871, "嘆 圗 噑 噴 切 壮 城 埴 堍 型 堲 報 墬 𡓤 売 壷 夆 多 夢 奢 𡚨 𡛪 姬 娛 娧 姘 婦 㛮 㛼 嬈 嬾 嬾 𡧈 寃 寘 寧 寳 𡬘"⟩,
  ⟨0x2f872, 0x2f897, "寿 将 当 尢 㞁 屠 屮 峀 岍 𡷤 嵃 𡷦 嵮 嵫 嵼 巡 巢 㠯 巽 帨 帽 幩 㡢 𢆃 㡼 庰 庳 庶 廊 𪎒 廾 𢌱 𢌱 舁 弢 弢 㣇 𣊸"⟩,
  ⟨0x2f898, 0x2f8bd, "𦇚 形 彫 㣣 徚 忍 志 忹 悁 㤺 㤜 悔 𢛔 惇 慈 慌 慎 慌 慺 憎 憲 憤 憯 懞 懲 懶 成 戛 扝 抱 拔 捐 𢬌 挽 拼 捨 掃 揤"⟩,
  ⟨0x2f8be, 0x2f8e3, "𢯱 搢 揅 掩 㨮 摩 摾 撝 摷 㩬 敏 敬 𣀊 旣 書 晉 㬙 暑 㬈 㫤 冒 冕 最 暜 肭 䏙 朗 望 朡 杞 杓 𣏃 㭉 柺 枅 桒 梅 𣑭"⟩,
  ⟨0x2f8e4, 0x2f909, "梎 栟 椔 㮝 楂 榣 槪 檨 𣚣 櫛 㰘 次 𣢧 歔 㱎 歲 殟 殺 殻 𣪍 𡴋 𣫺 汎 𣲼 沿 泍 汧 洖 派 海 流 浩 浸 涅 𣴞 洴 港 湮"⟩,
  ⟨0x2f90a, 0x2f92f, "㴳 滋 滇 𣻑 淹 潮 𣽞 𣾎 濆 瀹 瀞 瀛 㶖 灊 災 灷 炭 𠔥 煅 𤉣 熜 𤎫 爨 爵 牐 𤘈 犀 犕 𤜵 𤠔 獺 王 㺬 玥 㺸 㺸 瑇 瑜"⟩,
  ⟨0x2f930, 0x2f955, "瑱 璅 瓊 㼛 甤 𤰶 甾 𤲒 異 𢆟 瘐 𤾡 𤾸 𥁄 㿼 䀈 直 𥃳 𥃲 𥄙 𥄳 眞 真 真 睊 䀹 瞋 䁆 䂖 𥐝 硎 碌 磌 䃣 𥘦 祖 𥚚 𥛅"⟩,
  ⟨0x2f956, 0x2f97b, "福 秫 䄯 穀 穊 穏 𥥼 𥪧 𥪧 竮 䈂 𥮫 篆 築 䈧 𥲀 糒 䊠 糨 糣 紀 𥾆 絣 䌁 緇 縂 繅 䌴 𦈨 𦉇 䍙 𦋙 罺 𦌾 羕 翺 者 𦓚"⟩,
  ⟨0x2f97c, 0x2f9a1, "𦔣 聠 𦖨 聰 𣍟 䏕 育 脃 䐋 脾 媵 𦞧 𦞵 𣎓 𣎜 舁 舄 辞 䑫 芑 芋 芝 劳 花 芳 芽 苦 𦬼 若 茝 荣 莭 茣 莽 菧 著 荓 菊"⟩,
  ⟨0x2f9a2, 0x2f9c7, "菌 菜 𦰶 𦵫 𦳕 䔫 蓱 蓳 蔖 𧏊 蕤 𦼬 䕝 䕡 𦾱 𧃒 䕫 虐 虜 虧 虩 蚩 蚈 蜎 蛢 蝹 蜨 蝫 螆 䗗 蟡 蠁 䗹 衠 衣 𧙧 裗 裞"⟩,
  ⟨0x2f9c8, 0x2f9ed, "䘵 裺 㒻 𧢮 𧥦 䚾 䛇 誠 諭 變 豕 𧲨 貫 賁 贛 起 𧼯 𠠄 跋 趼 跰 𠣞 軔 輸 𨗒 𨗭 邔 郱 鄑 𨜮 鄛 鈸 鋗 鋘 鉼 鏹 鐕 𨯺"⟩,
  ⟨0x2f9ee, 0x2fa13, "開 䦕 閷 𨵷 䧦 雃 嶲 霣 𩅅 𩈚 䩮 䩶 韠 𩐊 䪲 𩒖 頋 頋 頩 𩖶 飢 䬳 餩 馧 駂 駾 䯎 𩬰 鬒 鱀 鳽 䳎 䳭 鵧 𪃎 䳸 𪄅 𪈎"⟩,
  ⟨0x2fa14, 0x2fa1d, "𪊑 麻 䵖 黹 黾 鼅 鼏 鼖 鼻 𪘀"⟩]

/-- The runs of code points that are folded to a code point at a fixed distance other than that of
the small letter. -/
def shiftedRuns : List CaseRun := [
  ⟨0x13a0, 0x13f5, 1, 0⟩, ⟨0xab70, 0xabbf, 1, -38864⟩, ⟨0xff01, 0xff20, 1, -65248⟩,
  ⟨0xff21, 0xff3a, 1, -65216⟩, ⟨0xff3b, 0xff5e, 1, -65248⟩]

/-- Characters that are left out: those without width, and those that choose a variant. -/
def ignoredRanges : List (Nat × Nat) := [
  (0xad, 0xad), (0x34f, 0x34f), (0x115f, 0x1160), (0x17b4, 0x17b5), (0x180b, 0x180f),
  (0x200b, 0x200b), (0x2060, 0x2064), (0x206a, 0x206f), (0x3164, 0x3164), (0xfe00, 0xfe0f),
  (0xfeff, 0xfeff), (0xffa0, 0xffa0), (0x1bca0, 0x1bca3), (0x1d173, 0x1d17a), (0xe0100, 0xe01ef)]

/-- Visible characters that no domain name may hold: those whose folded form would hold a blank or a
full stop of its own, and signs that describe other signs or stand for them. -/
def refusedRanges : List (Nat × Nat) := [
  (0xa8, 0xa8), (0xaf, 0xaf), (0xb4, 0xb4), (0xb8, 0xb8), (0x2d8, 0x2dd), (0x37a, 0x37a),
  (0x384, 0x385), (0x1fbd, 0x1fbd), (0x1fbf, 0x1fc1), (0x1fcd, 0x1fcf), (0x1fdd, 0x1fdf),
  (0x1fed, 0x1fee), (0x1ffd, 0x1ffe), (0x2017, 0x2017), (0x2024, 0x2026), (0x203e, 0x203e),
  (0x2488, 0x249b), (0x2ff0, 0x2fff), (0x309b, 0x309c), (0x31ef, 0x31ef), (0x33c2, 0x33c2),
  (0x33c7, 0x33c7), (0x33d8, 0x33d8), (0xfc5e, 0xfc63), (0xfdfa, 0xfdfb), (0xfe12, 0xfe12),
  (0xfe19, 0xfe19), (0xfe30, 0xfe30), (0xfe49, 0xfe4c), (0xfe52, 0xfe52), (0xfe70, 0xfe70),
  (0xfe72, 0xfe72), (0xfe74, 0xfe74), (0xfe76, 0xfe76), (0xfe78, 0xfe78), (0xfe7a, 0xfe7a),
  (0xfe7c, 0xfe7c), (0xfe7e, 0xfe7e), (0xffe3, 0xffe3), (0xfffc, 0xfffd), (0x1f100, 0x1f100)]

/-- What stands for a character in a domain name; `none` if nothing may. -/
def foldChar? (c : Char) : Option (List Char) :=
  let n := c.toNat
  if n < 0x80 then some [c.toLower]
  else if isJoiner c then some [c]
  else if inRanges ignoredRanges n then some []
  else if !Repertoire.contains c || inRanges refusedRanges n then none
  else
    match foldedRuns.find? (·.has n) with
    | some r => r.form? n
    | none =>
      match shiftedRuns.find? (·.has n) with
      | some r => some [Char.ofNat (n + r.shift).toNat]
      | none => some [lowerChar c]

/-- The folded form of a text. -/
def fold? (cs : List Char) : Option (List Char) :=
  (cs.mapM foldChar?).map List.flatten

theorem foldChar?_ascii {c : Char} (h : c.toNat < 0x80) : foldChar? c = some [c.toLower] := by
  simp only [foldChar?, h, if_pos]

end UaaAdmin.Url.Domain
