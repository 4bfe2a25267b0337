import ComponentSplit.Charset.Basic
import ComponentSplit.Charset.Table.BoxDrawing
import ComponentSplit.Charset.Table.Desktop
import ComponentSplit.Charset.Table.Mainframe
import ComponentSplit.Charset.Table.Regional

namespace ComponentSplit.Charset

/-- A name as the list of names spells it: small letters, and one underscore for each run of
punctuation between letters or digits. Characters outside ASCII are punctuation. -/
def plainNameAfter (started gap : Bool) : List Char → List Char
  | [] => []
  | c :: rest =>
    if 128 ≤ c.toNat then plainNameAfter started true rest
    else if c.isAlphanum || c == '.' then
      let tail := c.toLower :: plainNameAfter true false rest
      if gap && started then '_' :: tail else tail
    else plainNameAfter started true rest

/-- Names of sets of Unicode, and of ASCII and the first part of ISO 8859. -/
def unicodeNames : List (Charset × List String) :=
  [(.utf8, ["utf_8", "u8", "utf", "utf8", "utf8_ucs2", "utf8_ucs4", "cp65001"]),
    (.utf8Marked, ["utf_8_sig"]),
    (.utf16 none, ["utf_16", "u16", "utf16"]),
    (.utf16 (some .little), ["utf_16_le", "unicodelittleunmarked", "utf_16le"]),
    (.utf16 (some .big), ["utf_16_be", "unicodebigunmarked", "utf_16be"]),
    (.utf32 none, ["utf_32", "u32", "utf32"]),
    (.utf32 (some .little), ["utf_32_le", "utf_32le"]),
    (.utf32 (some .big), ["utf_32_be", "utf_32be"]),
    (.utf7, ["utf_7", "u7", "utf7", "unicode_1_1_utf_7"]),
    (.latin1, ["latin_1", "8859", "cp819", "csisolatin1", "ibm819", "iso8859", "iso8859_1",
      "iso_8859_1", "iso_8859_1_1987", "iso_ir_100", "l1", "latin", "latin1"]),
    (.latin1, ["charmap"]),
    (.ascii, ["ascii", "646", "ansi_x3.4_1968", "ansi_x3_4_1968", "ansi_x3.4_1986", "cp367",
      "csascii", "ibm367", "iso646_us", "iso_646.irv_1991", "iso_ir_6", "us", "us_ascii"]),
    (.escaped, ["unicode_escape"]),
    (.rawEscaped, ["raw_unicode_escape"]),
    (.punycode, ["punycode"]),
    (.hostName, ["idna"]),
    (.undefined, ["undefined"])]

/-- Names of sets with one byte for each character. -/
def tableNames : List (Charset × List String) :=
  [(.table codePage037, ["cp037", "037", "csibm037", "ebcdic_cp_ca", "ebcdic_cp_nl",
      "ebcdic_cp_us", "ebcdic_cp_wt", "ibm037", "ibm039"]),
    (.table codePage273, ["cp273", "273", "ibm273", "csibm273"]),
    (.table codePage424, ["cp424", "424", "csibm424", "ebcdic_cp_he", "ibm424"]),
    (.table codePage437, ["cp437", "437", "cspc8codepage437", "ibm437"]),
    (.table codePage500, ["cp500", "500", "csibm500", "ebcdic_cp_be", "ebcdic_cp_ch", "ibm500"]),
    (.table codePage720, ["cp720"]),
    (.table codePage737, ["cp737"]),
    (.table codePage775, ["cp775", "775", "cspc775baltic", "ibm775"]),
    (.table codePage850, ["cp850", "850", "cspc850multilingual", "ibm850"]),
    (.table codePage852, ["cp852", "852", "cspcp852", "ibm852"]),
    (.table codePage855, ["cp855", "855", "csibm855", "ibm855"]),
    (.table codePage856, ["cp856"]),
    (.table codePage857, ["cp857", "857", "csibm857", "ibm857"]),
    (.table codePage858, ["cp858", "858", "csibm858", "ibm858"]),
    (.table codePage860, ["cp860", "860", "csibm860", "ibm860"]),
    (.table codePage861, ["cp861", "861", "cp_is", "csibm861", "ibm861"]),
    (.table codePage862, ["cp862", "862", "cspc862latinhebrew", "ibm862"]),
    (.table codePage863, ["cp863", "863", "csibm863", "ibm863"]),
    (.table codePage864, ["cp864", "864", "csibm864", "ibm864"]),
    (.table codePage865, ["cp865", "865", "csibm865", "ibm865"]),
    (.table codePage866, ["cp866", "866", "csibm866", "ibm866"]),
    (.table codePage869, ["cp869", "869", "cp_gr", "csibm869", "ibm869"]),
    (.table codePage874, ["cp874"]),
    (.table codePage875, ["cp875"]),
    (.table codePage1006, ["cp1006"]),
    (.table codePage1026, ["cp1026", "1026", "csibm1026", "ibm1026"]),
    (.table codePage1125, ["cp1125", "1125", "ibm1125", "cp866u", "ruscii"]),
    (.table codePage1140, ["cp1140", "1140", "ibm1140"]),
    (.table codePage1250, ["cp1250", "1250", "windows_1250"]),
    (.table codePage1251, ["cp1251", "1251", "windows_1251"]),
    (.table codePage1252, ["cp1252", "1252", "windows_1252"]),
    (.table codePage1253, ["cp1253", "1253", "windows_1253"]),
    (.table codePage1254, ["cp1254", "1254", "windows_1254"]),
    (.table codePage1255, ["cp1255", "1255", "windows_1255"]),
    (.table codePage1256, ["cp1256", "1256", "windows_1256"]),
    (.table codePage1257, ["cp1257", "1257", "windows_1257"]),
    (.table codePage1258, ["cp1258", "1258", "windows_1258"]),
    (.table roman8, ["hp_roman8", "roman8", "r8", "cp1051", "ibm1051"]),
    (.table isoPart10, ["iso8859_10", "csisolatin6", "iso_8859_10", "iso_8859_10_1992",
      "iso_ir_157", "l6", "latin6"]),
    (.table isoPart11, ["iso8859_11", "thai", "iso_8859_11", "iso_8859_11_2001"]),
    (.table isoPart13, ["iso8859_13", "iso_8859_13", "l7", "latin7"]),
    (.table isoPart14, ["iso8859_14", "iso_8859_14", "iso_8859_14_1998", "iso_celtic",
      "iso_ir_199", "l8", "latin8"]),
    (.table isoPart15, ["iso8859_15", "iso_8859_15", "l9", "latin9"]),
    (.table isoPart16, ["iso8859_16", "iso_8859_16", "iso_8859_16_2001", "iso_ir_226", "l10",
      "latin10"]),
    (.table isoPart2, ["iso8859_2", "csisolatin2", "iso_8859_2", "iso_8859_2_1987", "iso_ir_101",
      "l2", "latin2"]),
    (.table isoPart3, ["iso8859_3", "csisolatin3", "iso_8859_3", "iso_8859_3_1988", "iso_ir_109",
      "l3", "latin3"]),
    (.table isoPart4, ["iso8859_4", "csisolatin4", "iso_8859_4", "iso_8859_4_1988", "iso_ir_110",
      "l4", "latin4"]),
    (.table isoPart5, ["iso8859_5", "csisolatincyrillic", "cyrillic", "iso_8859_5",
      "iso_8859_5_1988", "iso_ir_144"]),
    (.table isoPart6, ["iso8859_6", "arabic", "asmo_708", "csisolatinarabic", "ecma_114",
      "iso_8859_6", "iso_8859_6_1987", "iso_ir_127"]),
    (.table isoPart7, ["iso8859_7", "csisolatingreek", "ecma_118", "elot_928", "greek", "greek8",
      "iso_8859_7", "iso_8859_7_1987", "iso_ir_126"]),
    (.table isoPart8, ["iso8859_8", "csisolatinhebrew", "hebrew", "iso_8859_8", "iso_8859_8_1988",
      "iso_ir_138"]),
    (.table isoPart9, ["iso8859_9", "csisolatin5", "iso_8859_9", "iso_8859_9_1989", "iso_ir_148",
      "l5", "latin5"]),
    (.table koi8R, ["koi8_r", "cskoi8r"]),
    (.table koi8T, ["koi8_t"]),
    (.table koi8U, ["koi8_u"]),
    (.table kz1048, ["kz1048", "kz_1048", "rk1048", "strk1048_2002"]),
    (.table macArabic, ["mac_arabic"]),
    (.table macCroatian, ["mac_croatian"]),
    (.table macCyrillic, ["mac_cyrillic", "maccyrillic"]),
    (.table macFarsi, ["mac_farsi"]),
    (.table macGreek, ["mac_greek", "macgreek"]),
    (.table macIceland, ["mac_iceland", "maciceland"]),
    (.table macLatin2, ["mac_latin2", "maccentraleurope", "mac_centeuro", "maclatin2"]),
    (.table macRoman, ["mac_roman", "macintosh", "macroman"]),
    (.table macRomanian, ["mac_romanian"]),
    (.table macTurkish, ["mac_turkish", "macturkish"]),
    (.table palmTable, ["palmos"]),
    (.table ptcp154, ["ptcp154", "csptcp154", "pt154", "cp154", "cyrillic_asian"]),
    (.table tis620, ["tis_620", "tis620", "tis_620_0", "tis_620_2529_0", "tis_620_2529_1",
      "iso_ir_166"])]

def eastAsianNames : List (Charset × List String) :=
  [(.eastAsian .gb2312, ["gb2312", "chinese", "csiso58gb231280", "euc_cn", "euccn",
      "eucgb2312_cn", "gb2312_1980", "gb2312_80", "iso_ir_58", "x_mac_simp_chinese"]),
    (.eastAsian .gbk, ["gbk", "936", "cp936", "ms936"]),
    (.eastAsian .gb18030, ["gb18030", "gb18030_2000"]),
    (.eastAsian .hz, ["hz", "hzgb", "hz_gb", "hz_gb_2312"]),
    (.eastAsian .big5, ["big5", "big5_tw", "csbig5", "x_mac_trad_chinese"]),
    (.eastAsian .codePage950, ["cp950", "950", "ms950"]),
    (.eastAsian .hkscs, ["big5hkscs", "big5_hkscs", "hkscs"]),
    (.eastAsian .eucKr, ["euc_kr", "euckr", "korean", "ksc5601", "ks_c_5601", "ks_c_5601_1987",
      "ksx1001", "ks_x_1001", "x_mac_korean"]),
    (.eastAsian .codePage949, ["cp949", "949", "ms949", "uhc"]),
    (.eastAsian .johab, ["johab", "cp1361", "ms1361"]),
    (.eastAsian (.designated .korean), ["iso2022_kr", "csiso2022kr", "iso2022kr", "iso_2022_kr"]),
    (.eastAsian .shiftJis, ["shift_jis", "csshiftjis", "shiftjis", "sjis", "s_jis",
      "x_mac_japanese"]),
    (.eastAsian .codePage932, ["cp932", "932", "ms932", "mskanji", "ms_kanji"]),
    (.eastAsian .eucJp, ["euc_jp", "eucjp", "ujis", "u_jis"]),
    (.eastAsian (.extendedEuc .of2004), ["euc_jis_2004", "jisx0213", "eucjis2004",
      "euc_jis2004"]),
    (.eastAsian (.extendedEuc .of2000), ["euc_jisx0213", "eucjisx0213"]),
    (.eastAsian (.extendedShifted .of2004), ["shift_jis_2004", "shiftjis2004", "sjis_2004",
      "s_jis_2004"]),
    (.eastAsian (.extendedShifted .of2000), ["shift_jisx0213", "shiftjisx0213", "sjisx0213",
      "s_jisx0213"]),
    (.eastAsian (.designated .japanese), ["iso2022_jp", "csiso2022jp", "iso2022jp",
      "iso_2022_jp"]),
    (.eastAsian (.designated .japanese1), ["iso2022_jp_1", "iso2022jp_1", "iso_2022_jp_1"]),
    (.eastAsian (.designated .japanese2), ["iso2022_jp_2", "iso2022jp_2", "iso_2022_jp_2"]),
    (.eastAsian (.designated .japanese2004), ["iso2022_jp_2004", "iso_2022_jp_2004",
      "iso2022jp_2004"]),
    (.eastAsian (.designated .japanese3), ["iso2022_jp_3", "iso2022jp_3", "iso_2022_jp_3"]),
    (.eastAsian (.designated .japaneseExtended), ["iso2022_jp_ext", "iso2022jp_ext",
      "iso_2022_jp_ext"])]

/-- Names of ways to turn bytes into other bytes, which are no character sets. -/
def otherNames : List (List String) :=
  [["base64_codec", "base64", "base_64"],
    ["bz2_codec", "bz2"],
    ["hex_codec", "hex"],
    ["quopri_codec", "quopri", "quoted_printable", "quotedprintable"],
    ["rot_13", "rot13"],
    ["uu_codec", "uu"],
    ["zlib_codec", "zip", "zlib"]]

/-- Why a name means no character set. -/
inductive NameFault
  | unknown
  | notText
  | null
deriving DecidableEq, Repr

/-- The names among which a plain name stands. The first name of an entry is spelled exactly so, and
in the others a dot may stand for an underscore. -/
def entry? (entries : List (List String)) (name : String) : Option (List String) :=
  let undotted := name.map fun c => if c = '.' then '_' else c
  let find (p : List String → Bool) : Option (List String) := entries.find? p
  (find fun names => (names.drop 1).contains name).or
    ((find fun names => (names.drop 1).contains undotted).or
      (find fun names => names.head? = some name))

def ofName (name : String) : Except NameFault Charset :=
  if name.contains '\x00' then .error .null
  else
    let plain := String.ofList (plainNameAfter false false name.toList)
    let sets := unicodeNames ++ tableNames ++ eastAsianNames
    match entry? (sets.map Prod.snd ++ otherNames) plain with
    | none => .error .unknown
    | some names =>
      match sets.find? (·.2 = names) with
      | some (charset, _) => .ok charset
      | none => .error .notText

end ComponentSplit.Charset
