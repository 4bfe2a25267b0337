import ComponentSplit.Charset.ByteTable

namespace ComponentSplit.Charset

/-- Code page 1250: Central Europe. -/
def codePage1250 : ByteTable :=
  ⟨0x80,
    [⟨0x80, "€�‚�„…†‡�‰Š‹ŚŤŽŹ�‘’“”•–—�™š›śťžź\xa0ˇ˘Ł¤Ą¦§¨©Ş«¬\xad®Ż°±˛ł´µ¶·¸ąş»Ľ˝ľż"⟩,
      ⟨0xc0, "ŔÁÂĂÄĹĆÇČÉĘËĚÍÎĎĐŃŇÓÔŐÖ×ŘŮÚŰÜÝŢßŕáâăäĺćçčéęëěíîďđńňóôőö÷řůúűüýţ˙"⟩]⟩

/-- Code page 1251: Cyrillic. -/
def codePage1251 : ByteTable :=
  ⟨0x80,
    [⟨0x80, "ЂЃ‚ѓ„…†‡€‰Љ‹ЊЌЋЏђ‘’“”•–—�™љ›њќћџ\xa0ЎўЈ¤Ґ¦§Ё©Є«¬\xad®Ї°±Ііґµ¶·ё№є»јЅѕї"⟩,
      ⟨0xc0, "АБВГДЕЖЗИЙКЛМНОПРСТУФХЦЧШЩЪЫЬЭЮЯабвгдежзийклмнопрстуфхцчшщъыьэюя"⟩]⟩

/-- Code page 1252: Western Europe. -/
def codePage1252 : ByteTable :=
  ⟨0x80,
    [⟨0x80, "€�‚ƒ„…†‡ˆ‰Š‹Œ�Ž��‘’“”•–—˜™š›œ�žŸ\xa0¡¢£¤¥¦§¨©ª«¬\xad®¯°±²³´µ¶·¸¹º»¼½¾¿"⟩,
      ⟨0xc0, "ÀÁÂÃÄÅÆÇÈÉÊËÌÍÎÏÐÑÒÓÔÕÖ×ØÙÚÛÜÝÞßàáâãäåæçèéêëìíîïðñòóôõö÷øùúûüýþÿ"⟩]⟩

/-- Code page 1253: Greek. -/
def codePage1253 : ByteTable :=
  ⟨0x80,
    [⟨0x80, "€�‚ƒ„…†‡�‰�‹"⟩,
      ⟨0x91, "‘’“”•–—�™�›����\xa0΅Ά£¤¥¦§¨©�«¬\xad®―°±²³΄µ¶·ΈΉΊ»Ό½ΎΏΐΑΒΓΔΕΖΗΘΙΚΛΜΝΞΟΠ"⟩,
      ⟨0xd1, "Ρ�ΣΤΥΦΧΨΩΪΫάέήίΰαβγδεζηθικλμνξοπρςστυφχψωϊϋόύώ"⟩]⟩

/-- Code page 1254: Turkish. -/
def codePage1254 : ByteTable :=
  ⟨0x80,
    [⟨0x80, "€�‚ƒ„…†‡ˆ‰Š‹Œ����‘’“”•–—˜™š›œ��Ÿ\xa0¡¢£¤¥¦§¨©ª«¬\xad®¯°±²³´µ¶·¸¹º»¼½¾¿"⟩,
      ⟨0xc0, "ÀÁÂÃÄÅÆÇÈÉÊËÌÍÎÏĞÑÒÓÔÕÖ×ØÙÚÛÜİŞßàáâãäåæçèéêëìíîïğñòóôõö÷øùúûüışÿ"⟩]⟩

/-- Code page 1255: Hebrew. -/
def codePage1255 : ByteTable :=
  ⟨0x80,
    [⟨0x80, "€�‚ƒ„…†‡ˆ‰�‹"⟩,
      ⟨0x91, "‘’“”•–—˜™�›����\xa0¡¢£₪¥¦§¨©×«¬\xad®¯°±²³´µ¶·¸¹÷»¼½¾¿\u05b0\u05b1\u05b2\u05b3"⟩,
      ⟨0xc4, "\u05b4\u05b5\u05b6\u05b7\u05b8\u05b9�\u05bb\u05bc\u05bd־\u05bf׀\u05c1\u05c2׃װױײ׳"⟩,
      ⟨0xd8, "״"⟩, ⟨0xe0, "אבגדהוזחטיךכלםמןנסעףפץצקרשת��\u200e\u200f"⟩]⟩

/-- Code page 1256: Arabic. -/
def codePage1256 : ByteTable :=
  ⟨0x80,
    [⟨0x80, "€پ‚ƒ„…†‡ˆ‰ٹ‹Œچژڈگ‘’“”•–—ک™ڑ›œ\u200c\u200dں\xa0،¢£¤¥¦§¨©ھ«¬\xad®¯°±²³´µ¶·¸¹؛»¼½¾؟"⟩,
      ⟨0xc0, "ہءآأؤإئابةتثجحخدذرزسشصض×طظعغـفقكàلâمنهوçèéêëىيîï\u064b\u064c\u064d\u064eô\u064f"⟩,
      ⟨0xf6, "\u0650÷\u0651ù\u0652ûü\u200e\u200fے"⟩]⟩

/-- Code page 1257: Baltic. -/
def codePage1257 : ByteTable :=
  ⟨0x80,
    [⟨0x80, "€�‚�„…†‡�‰�‹�¨ˇ¸�‘’“”•–—�™�›�¯˛�\xa0�¢£¤�¦§Ø©Ŗ«¬\xad®Æ°±²³´µ¶·ø¹ŗ»¼½¾æ"⟩,
      ⟨0xc0, "ĄĮĀĆÄÅĘĒČÉŹĖĢĶĪĻŠŃŅÓŌÕÖ×ŲŁŚŪÜŻŽßąįāćäåęēčéźėģķīļšńņóōõö÷ųłśūüżž˙"⟩]⟩

/-- Code page 1258: Vietnamese. -/
def codePage1258 : ByteTable :=
  ⟨0x80,
    [⟨0x80, "€�‚ƒ„…†‡ˆ‰�‹Œ����‘’“”•–—˜™�›œ��Ÿ\xa0¡¢£¤¥¦§¨©ª«¬\xad®¯°±²³´µ¶·¸¹º»¼½¾¿"⟩,
      ⟨0xc0, "ÀÁÂĂÄÅÆÇÈÉÊË\u0300ÍÎÏĐÑ\u0309ÓÔƠÖ×ØÙÚÛÜƯ\u0303ßàáâăäåæçèéêë\u0301íîïđñ\u0323óôơö"⟩,
      ⟨0xf7, "÷øùúûüư₫ÿ"⟩]⟩

/-- Code page 874: Thai. -/
def codePage874 : ByteTable :=
  ⟨0x80,
    [⟨0x80, "€����…"⟩, ⟨0x91, "‘’“”•–—"⟩,
      ⟨0xa0, "\xa0กขฃคฅฆงจฉชซฌญฎฏฐฑฒณดตถทธนบปผฝพฟภมยรฤลฦวศษสหฬอฮฯะ\u0e31าำ\u0e34\u0e35\u0e36"⟩,
      ⟨0xd7, "\u0e37\u0e38\u0e39\u0e3a����฿เแโใไๅๆ\u0e47\u0e48\u0e49\u0e4a\u0e4b\u0e4c\u0e4d"⟩,
      ⟨0xee, "\u0e4e๏๐๑๒๓๔๕๖๗๘๙๚๛"⟩]⟩

end ComponentSplit.Charset
