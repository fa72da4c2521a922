/-!
# Tables of code pages

The characters of the bytes from 80 on, in order. A point stands for a byte without
a character of its own. The ISO pages begin at A0.
-/

set_option autoImplicit false

namespace SheetCompiler.Encoding.Table

def ibm866 : String :=
  "АБВГДЕЖЗИЙКЛМНОПРСТУФХЦЧШЩЪЫЬЭЮЯабвгдежзийклмноп░▒▓│┤╡╢╖╕╣║╗╝╜╛┐└┴┬├─┼╞╟╚╔╩╦╠═╬╧╨╤╥╙
    ╘╒╓╫╪┘┌█▄▌▐▀рстуфхцчшщъыьэюяЁёЄєЇїЎў°∙·√№¤■\u00a0"

def iso8859_2 : String :=
  "\u00a0Ą˘Ł¤ĽŚ§¨ŠŞŤŹ\u00adŽŻ°ą˛ł´ľśˇ¸šşťź˝žżŔÁÂĂÄĹĆÇČÉĘËĚÍÎĎĐŃŇÓÔŐÖ×ŘŮÚŰÜÝŢßŕáâăäĺćçčé
    ęëěíîďđńňóôőö÷řůúűüýţ˙"

def iso8859_3 : String :=
  "\u00a0Ħ˘£¤.Ĥ§¨İŞĞĴ\u00ad.Ż°ħ²³´µĥ·¸ışğĵ½.żÀÁÂ.ÄĊĈÇÈÉÊËÌÍÎÏ.ÑÒÓÔĠÖ×ĜÙÚÛÜŬŜßàáâ.äċĉçèé
    êëìíîï.ñòóôġö÷ĝùúûüŭŝ˙"

def iso8859_4 : String :=
  "\u00a0ĄĸŖ¤ĨĻ§¨ŠĒĢŦ\u00adŽ¯°ą˛ŗ´ĩļˇ¸šēģŧŊžŋĀÁÂÃÄÅÆĮČÉĘËĖÍÎĪĐŅŌĶÔÕÖ×ØŲÚÛÜŨŪßāáâãäåæįčé
    ęëėíîīđņōķôõö÷øųúûüũū˙"

def iso8859_5 : String :=
  "\u00a0ЁЂЃЄЅІЇЈЉЊЋЌ\u00adЎЏАБВГДЕЖЗИЙКЛМНОПРСТУФХЦЧШЩЪЫЬЭЮЯабвгдежзийклмнопрстуфхцчшщ
    ъыьэюя№ёђѓєѕіїјљњћќ§ўџ"

def iso8859_6 : String :=
  "\u00a0...¤.......،\u00ad.............؛...؟.ءآأؤإئابةتثجحخدذرزسشصضطظعغ.....ـفقكلمنهوى
    ي\u064b\u064c\u064d\u064e\u064f\u0650\u0651\u0652............."

def iso8859_7 : String :=
  "\u00a0‘’£€₯¦§¨©ͺ«¬\u00ad.―°±²³΄΅Ά·ΈΉΊ»Ό½ΎΏΐΑΒΓΔΕΖΗΘΙΚΛΜΝΞΟΠΡ.ΣΤΥΦΧΨΩΪΫάέήίΰαβγδεζηθι
    κλμνξοπρςστυφχψωϊϋόύώ."

def iso8859_8 : String :=
  "\u00a0.¢£¤¥¦§¨©×«¬\u00ad®¯°±²³´µ¶·¸¹÷»¼½¾................................‗אבגדהוזחטי
    ךכלםמןנסעףפץצקרשת..\u200e\u200f."

def iso8859_10 : String :=
  "\u00a0ĄĒĢĪĨĶ§ĻĐŠŦŽ\u00adŪŊ°ąēģīĩķ·ļđšŧž―ūŋĀÁÂÃÄÅÆĮČÉĘËĖÍÎÏÐŅŌÓÔÕÖŨØŲÚÛÜÝÞßāáâãäåæįčé
    ęëėíîïðņōóôõöũøųúûüýþĸ"

def iso8859_13 : String :=
  "\u00a0”¢£¤„¦§Ø©Ŗ«¬\u00ad®Æ°±²³“µ¶·ø¹ŗ»¼½¾æĄĮĀĆÄÅĘĒČÉŹĖĢĶĪĻŠŃŅÓŌÕÖ×ŲŁŚŪÜŻŽßąįāćäåęēčé
    źėģķīļšńņóōõö÷ųłśūüżž’"

def iso8859_14 : String :=
  "\u00a0Ḃḃ£ĊċḊ§Ẁ©ẂḋỲ\u00ad®ŸḞḟĠġṀṁ¶ṖẁṗẃṠỳẄẅṡÀÁÂÃÄÅÆÇÈÉÊËÌÍÎÏŴÑÒÓÔÕÖṪØÙÚÛÜÝŶßàáâãäåæçèé
    êëìíîïŵñòóôõöṫøùúûüýŷÿ"

def iso8859_15 : String :=
  "\u00a0¡¢£€¥Š§š©ª«¬\u00ad®¯°±²³Žµ¶·ž¹º»ŒœŸ¿ÀÁÂÃÄÅÆÇÈÉÊËÌÍÎÏÐÑÒÓÔÕÖ×ØÙÚÛÜÝÞßàáâãäåæçèé
    êëìíîïðñòóôõö÷øùúûüýþÿ"

def iso8859_16 : String :=
  "\u00a0ĄąŁ€„Š§š©Ș«Ź\u00adźŻ°±ČłŽ”¶·žčș»ŒœŸżÀÁÂĂÄĆÆÇÈÉÊËÌÍÎÏĐŃÒÓÔŐÖŚŰÙÚÛÜĘȚßàáâăäćæçèé
    êëìíîïđńòóôőöśűùúûüęțÿ"

def koi8R : String :=
  "─│┌┐└┘├┤┬┴┼▀▄█▌▐░▒▓⌠■∙√≈≤≥\u00a0⌡°²·÷═║╒ё╓╔╕╖╗╘╙╚╛╜╝╞╟╠╡Ё╢╣╤╥╦╧╨╩╪╫╬©юабцдефгхийклмн
    опярстужвьызшэщчъЮАБЦДЕФГХИЙКЛМНОПЯРСТУЖВЬЫЗШЭЩЧЪ"

def koi8U : String :=
  "─│┌┐└┘├┤┬┴┼▀▄█▌▐░▒▓⌠■∙√≈≤≥\u00a0⌡°²·÷═║╒ёє╔ії╗╘╙╚╛ґў╞╟╠╡ЁЄ╣ІЇ╦╧╨╩╪ҐЎ©юабцдефгхийклмн
    опярстужвьызшэщчъЮАБЦДЕФГХИЙКЛМНОПЯРСТУЖВЬЫЗШЭЩЧЪ"

def macRoman : String :=
  "ÄÅÇÉÑÖÜáàâäãåçéèêëíìîïñóòôöõúùûü†°¢£§•¶ß®©™´¨≠ÆØ∞±≤≥¥µ∂∑∏π∫ªºΩæø¿¡¬√ƒ≈∆«»…\u00a0ÀÃÕŒ
    œ–—“”‘’÷◊ÿŸ⁄€‹›ﬁﬂ‡·‚„‰ÂÊÁËÈÍÎÏÌÓÔ\uf8ffÒÚÛÙıˆ˜¯˘˙˚¸˝˛ˇ"

def windows874 : String :=
  "€....…...........‘’“”•–—........\u00a0กขฃคฅฆงจฉชซฌญฎฏฐฑฒณดตถทธนบปผฝพฟภมยรฤลฦวศษสหฬอฮ
    ฯะ\u0e31าำ\u0e34\u0e35\u0e36\u0e37\u0e38\u0e39\u0e3a....฿เแโใไๅๆ\u0e47\u0e48\u0e49
    \u0e4a\u0e4b\u0e4c\u0e4d\u0e4e๏๐๑๒๓๔๕๖๗๘๙๚๛...."

def windows1250 : String :=
  "€.‚.„…†‡.‰Š‹ŚŤŽŹ.‘’“”•–—.™š›śťžź\u00a0ˇ˘Ł¤Ą¦§¨©Ş«¬\u00ad®Ż°±˛ł´µ¶·¸ąş»Ľ˝ľżŔÁÂĂÄĹĆÇČÉ
    ĘËĚÍÎĎĐŃŇÓÔŐÖ×ŘŮÚŰÜÝŢßŕáâăäĺćçčéęëěíîďđńňóôőö÷řůúűüýţ˙"

def windows1251 : String :=
  "ЂЃ‚ѓ„…†‡€‰Љ‹ЊЌЋЏђ‘’“”•–—.™љ›њќћџ\u00a0ЎўЈ¤Ґ¦§Ё©Є«¬\u00ad®Ї°±Ііґµ¶·ё№є»јЅѕїАБВГДЕЖЗИЙ
    КЛМНОПРСТУФХЦЧШЩЪЫЬЭЮЯабвгдежзийклмнопрстуфхцчшщъыьэюя"

def windows1252 : String :=
  "€.‚ƒ„…†‡ˆ‰Š‹Œ.Ž..‘’“”•–—˜™š›œ.žŸ\u00a0¡¢£¤¥¦§¨©ª«¬\u00ad®¯°±²³´µ¶·¸¹º»¼½¾¿ÀÁÂÃÄÅÆÇÈÉ
    ÊËÌÍÎÏÐÑÒÓÔÕÖ×ØÙÚÛÜÝÞßàáâãäåæçèéêëìíîïðñòóôõö÷øùúûüýþÿ"

def windows1253 : String :=
  "€.‚ƒ„…†‡.‰.‹.....‘’“”•–—.™.›....\u00a0΅Ά£¤¥¦§¨©.«¬\u00ad®―°±²³΄µ¶·ΈΉΊ»Ό½ΎΏΐΑΒΓΔΕΖΗΘΙ
    ΚΛΜΝΞΟΠΡ.ΣΤΥΦΧΨΩΪΫάέήίΰαβγδεζηθικλμνξοπρςστυφχψωϊϋόύώ."

def windows1254 : String :=
  "€.‚ƒ„…†‡ˆ‰Š‹Œ....‘’“”•–—˜™š›œ..Ÿ\u00a0¡¢£¤¥¦§¨©ª«¬\u00ad®¯°±²³´µ¶·¸¹º»¼½¾¿ÀÁÂÃÄÅÆÇÈÉ
    ÊËÌÍÎÏĞÑÒÓÔÕÖ×ØÙÚÛÜİŞßàáâãäåæçèéêëìíîïğñòóôõö÷øùúûüışÿ"

def windows1255 : String :=
  "€.‚ƒ„…†‡ˆ‰.‹.....‘’“”•–—˜™.›....\u00a0¡¢£₪¥¦§¨©×«¬\u00ad®¯°±²³´µ¶·¸¹÷»¼½¾¿\u05b0
    \u05b1\u05b2\u05b3\u05b4\u05b5\u05b6\u05b7\u05b8\u05b9\u05ba\u05bb\u05bc\u05bd־
    \u05bf׀\u05c1\u05c2׃װױײ׳״.......אבגדהוזחטיךכלםמןנסעףפץצקרשת..\u200e\u200f."

def windows1256 : String :=
  "€پ‚ƒ„…†‡ˆ‰ٹ‹Œچژڈگ‘’“”•–—ک™ڑ›œ\u200c\u200dں\u00a0،¢£¤¥¦§¨©ھ«¬\u00ad®¯°±²³´µ¶·¸¹؛»¼½¾؟
    ہءآأؤإئابةتثجحخدذرزسشصض×طظعغـفقكàلâمنهوçèéêëىيîï\u064b\u064c\u064d\u064eô\u064f
    \u0650÷\u0651ù\u0652ûü\u200e\u200fے"

def windows1257 : String :=
  "€.‚.„…†‡.‰.‹.¨ˇ¸.‘’“”•–—.™.›.¯˛.\u00a0.¢£¤.¦§Ø©Ŗ«¬\u00ad®Æ°±²³´µ¶·ø¹ŗ»¼½¾æĄĮĀĆÄÅĘĒČÉ
    ŹĖĢĶĪĻŠŃŅÓŌÕÖ×ŲŁŚŪÜŻŽßąįāćäåęēčéźėģķīļšńņóōõö÷ųłśūüżž˙"

def windows1258 : String :=
  "€.‚ƒ„…†‡ˆ‰.‹Œ....‘’“”•–—˜™.›œ..Ÿ\u00a0¡¢£¤¥¦§¨©ª«¬\u00ad®¯°±²³´µ¶·¸¹º»¼½¾¿ÀÁÂĂÄÅÆÇÈÉ
    ÊË\u0300ÍÎÏĐÑ\u0309ÓÔƠÖ×ØÙÚÛÜƯ\u0303ßàáâăäåæçèéêë\u0301íîïđñ\u0323óôơö÷øùúûüư₫ÿ"

def macCyrillic : String :=
  "АБВГДЕЖЗИЙКЛМНОПРСТУФХЦЧШЩЪЫЬЭЮЯ†°Ґ£§•¶І®©™Ђђ≠Ѓѓ∞±≤≥іµґЈЄєЇїЉљЊњјЅ¬√ƒ≈∆«»…\u00a0ЋћЌќ
    ѕ–—“”‘’÷„ЎўЏџ№Ёёяабвгдежзийклмнопрстуфхцчшщъыьэю€"

end SheetCompiler.Encoding.Table
