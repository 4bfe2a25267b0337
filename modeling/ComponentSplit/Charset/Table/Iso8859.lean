import ComponentSplit.Charset.ByteTable

namespace ComponentSplit.Charset

/-- Part 2: Central Europe. -/
def isoPart2 : ByteTable :=
  ⟨0xa0,
    [⟨0xa0, "\xa0Ą˘Ł¤ĽŚ§¨ŠŞŤŹ\xadŽŻ°ą˛ł´ľśˇ¸šşťź˝žżŔÁÂĂÄĹĆÇČÉĘËĚÍÎĎĐŃŇÓÔŐÖ×ŘŮÚŰÜÝŢß"⟩,
      ⟨0xe0, "ŕáâăäĺćçčéęëěíîďđńňóôőö÷řůúűüýţ˙"⟩]⟩

/-- Part 3: Southern Europe. -/
def isoPart3 : ByteTable :=
  ⟨0xa0,
    [⟨0xa0, "\xa0Ħ˘£¤�Ĥ§¨İŞĞĴ\xad�Ż°ħ²³´µĥ·¸ışğĵ½�żÀÁÂ�ÄĊĈÇÈÉÊËÌÍÎÏ�ÑÒÓÔĠÖ×ĜÙÚÛÜŬŜß"⟩,
      ⟨0xe0, "àáâ�äċĉçèéêëìíîï�ñòóôġö÷ĝùúûüŭŝ˙"⟩]⟩

/-- Part 4: Northern Europe. -/
def isoPart4 : ByteTable :=
  ⟨0xa0,
    [⟨0xa0, "\xa0ĄĸŖ¤ĨĻ§¨ŠĒĢŦ\xadŽ¯°ą˛ŗ´ĩļˇ¸šēģŧŊžŋĀÁÂÃÄÅÆĮČÉĘËĖÍÎĪĐŅŌĶÔÕÖ×ØŲÚÛÜŨŪß"⟩,
      ⟨0xe0, "āáâãäåæįčéęëėíîīđņōķôõö÷øųúûüũū˙"⟩]⟩

/-- Part 5: Cyrillic. -/
def isoPart5 : ByteTable :=
  ⟨0xa0,
    [⟨0xa0, "\xa0ЁЂЃЄЅІЇЈЉЊЋЌ\xadЎЏАБВГДЕЖЗИЙКЛМНОПРСТУФХЦЧШЩЪЫЬЭЮЯабвгдежзийклмноп"⟩,
      ⟨0xe0, "рстуфхцчшщъыьэюя№ёђѓєѕіїјљњћќ§ўџ"⟩]⟩

/-- Part 6: Arabic. -/
def isoPart6 : ByteTable :=
  ⟨0xa0,
    [⟨0xa0, "\xa0���¤"⟩, ⟨0xac, "،\xad"⟩, ⟨0xbb, "؛���؟�ءآأؤإئابةتثجحخدذرزسشصضطظعغ"⟩,
      ⟨0xe0, "ـفقكلمنهوىي\u064b\u064c\u064d\u064e\u064f\u0650\u0651\u0652"⟩]⟩

/-- Part 7: Greek. -/
def isoPart7 : ByteTable :=
  ⟨0xa0,
    [⟨0xa0, "\xa0‘’£€₯¦§¨©ͺ«¬\xad�―°±²³΄΅Ά·ΈΉΊ»Ό½ΎΏΐΑΒΓΔΕΖΗΘΙΚΛΜΝΞΟΠΡ�ΣΤΥΦΧΨΩΪΫάέήί"⟩,
      ⟨0xe0, "ΰαβγδεζηθικλμνξοπρςστυφχψωϊϋόύώ"⟩]⟩

/-- Part 8: Hebrew. -/
def isoPart8 : ByteTable :=
  ⟨0xa0,
    [⟨0xa0, "\xa0�¢£¤¥¦§¨©×«¬\xad®¯°±²³´µ¶·¸¹÷»¼½¾"⟩,
      ⟨0xdf, "‗אבגדהוזחטיךכלםמןנסעףפץצקרשת��\u200e\u200f"⟩]⟩

/-- Part 9: Turkish. -/
def isoPart9 : ByteTable :=
  ⟨0xd0,
    [⟨0xd0, "ĞÑÒÓÔÕÖ×ØÙÚÛÜİŞßàáâãäåæçèéêëìíîïğñòóôõö÷øùúûüışÿ"⟩]⟩

/-- Part 10: Nordic. -/
def isoPart10 : ByteTable :=
  ⟨0xa0,
    [⟨0xa0, "\xa0ĄĒĢĪĨĶ§ĻĐŠŦŽ\xadŪŊ°ąēģīĩķ·ļđšŧž―ūŋĀÁÂÃÄÅÆĮČÉĘËĖÍÎÏÐŅŌÓÔÕÖŨØŲÚÛÜÝÞß"⟩,
      ⟨0xe0, "āáâãäåæįčéęëėíîïðņōóôõöũøųúûüýþĸ"⟩]⟩

/-- Part 11: Thai. -/
def isoPart11 : ByteTable :=
  ⟨0xa0,
    [⟨0xa0, "\xa0กขฃคฅฆงจฉชซฌญฎฏฐฑฒณดตถทธนบปผฝพฟภมยรฤลฦวศษสหฬอฮฯะ\u0e31าำ\u0e34\u0e35\u0e36"⟩,
      ⟨0xd7, "\u0e37\u0e38\u0e39\u0e3a����฿เแโใไๅๆ\u0e47\u0e48\u0e49\u0e4a\u0e4b\u0e4c\u0e4d"⟩,
      ⟨0xee, "\u0e4e๏๐๑๒๓๔๕๖๗๘๙๚๛"⟩]⟩

/-- Part 13: Baltic. -/
def isoPart13 : ByteTable :=
  ⟨0xa0,
    [⟨0xa0, "\xa0”¢£¤„¦§Ø©Ŗ«¬\xad®Æ°±²³“µ¶·ø¹ŗ»¼½¾æĄĮĀĆÄÅĘĒČÉŹĖĢĶĪĻŠŃŅÓŌÕÖ×ŲŁŚŪÜŻŽß"⟩,
      ⟨0xe0, "ąįāćäåęēčéźėģķīļšńņóōõö÷ųłśūüżž’"⟩]⟩

/-- Part 14: Celtic. -/
def isoPart14 : ByteTable :=
  ⟨0xa0,
    [⟨0xa0, "\xa0Ḃḃ£ĊċḊ§Ẁ©ẂḋỲ\xad®ŸḞḟĠġṀṁ¶ṖẁṗẃṠỳẄẅṡÀÁÂÃÄÅÆÇÈÉÊËÌÍÎÏŴÑÒÓÔÕÖṪØÙÚÛÜÝŶß"⟩,
      ⟨0xe0, "àáâãäåæçèéêëìíîïŵñòóôõöṫøùúûüýŷÿ"⟩]⟩

/-- Part 15: Western Europe with the euro sign. -/
def isoPart15 : ByteTable :=
  ⟨0xa0,
    [⟨0xa0, "\xa0¡¢£€¥Š§š©ª«¬\xad®¯°±²³Žµ¶·ž¹º»ŒœŸ¿ÀÁÂÃÄÅÆÇÈÉÊËÌÍÎÏÐÑÒÓÔÕÖ×ØÙÚÛÜÝÞß"⟩,
      ⟨0xe0, "àáâãäåæçèéêëìíîïðñòóôõö÷øùúûüýþÿ"⟩]⟩

/-- Part 16: South-eastern Europe. -/
def isoPart16 : ByteTable :=
  ⟨0xa0,
    [⟨0xa0, "\xa0ĄąŁ€„Š§š©Ș«Ź\xadźŻ°±ČłŽ”¶·žčș»ŒœŸżÀÁÂĂÄĆÆÇÈÉÊËÌÍÎÏĐŃÒÓÔŐÖŚŰÙÚÛÜĘȚß"⟩,
      ⟨0xe0, "àáâăäćæçèéêëìíîïđńòóôőöśűùúûüęțÿ"⟩]⟩

end ComponentSplit.Charset
