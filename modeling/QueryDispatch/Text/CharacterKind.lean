import QueryDispatch.Text.RunTable

/-! # Kinds of characters

  How a character takes part in running text: in which direction it is
  written, whether it is a mark that belongs to the character before it, and
  whether it joins its neighbours in cursive scripts. The table covers the
  characters that may stand in names; the runs reach over those in between.
-/

namespace QueryDispatch.Text

/-- The direction of a character. -/
inductive Direction where
  | leftToRight
  | rightToLeft
  | arabicNumber
  | europeanNumber
  /-- A mark that takes the direction of what it stands on. -/
  | mark
  /-- Separators, signs and symbols without a direction. -/
  | neutral
  deriving DecidableEq, Repr

/-- How a character joins its neighbours. -/
inductive Joining where
  | none
  /-- It joins the character behind it. -/
  | following
  /-- It joins the character before it. -/
  | preceding
  | both
  /-- It does not come between two characters that join. -/
  | transparent
  deriving DecidableEq, Repr

/-- What a character is in running text. -/
structure CharacterKind where
  direction : Direction
  /-- Whether it combines with the character before it. -/
  isMark : Bool
  joining : Joining
  deriving DecidableEq, Repr

namespace CharacterKind

/-- Reads a kind: a letter for the direction, `m` for marks, and a letter for how it joins. -/
def read (s : List Char) : CharacterKind where
  direction :=
    if s.head? = some 'r' then .rightToLeft
    else if s.head? = some 'a' then .arabicNumber
    else if s.head? = some 'e' then .europeanNumber
    else if s.head? = some 'n' then .mark
    else if s.head? = some 'o' then .neutral
    else .leftToRight
  isMark := s.contains 'm'
  joining :=
    if s.contains 'd' then .both
    else if s.contains 'f' then .following
    else if s.contains 'p' then .preceding
    else if s.contains 't' then .transparent
    else .none

/-- The kinds of the characters beyond ASCII. -/
def table : RunTable CharacterKind := .read read
  "A1o DFl F7o F8l 2B9o 2BBl 2C2o 2D0l 2D2o 2EEl 2EFo 300nmt 371l 375o 377l 3F6o 3F8l 483nmt 48Bl
   58Ao 591nmt 5BEr 5BFnmt 5C0r 5C1nmt 5C3r 5C4nmt 5C6r 5C7nmt 5D0r 606o 608r 609o 60Br 60Co 60Dr
   60Eo 610nmt 61Br 620rd 621r 622rp 626rd 627rp 628rd 629rp 62Ard 62Frp 633rd 640r 641rd 648rp
   649rd 64Bnmt 660a 66Ao 66Ba 66Dr 66Erd 670nmt 671rp 674r 679rd 688rp 69Ard 6C0rp 6C1rd 6C3rp
   6CCrd 6CDrp 6CErd 6CFrp 6D0rd 6D2rp 6D4r 6D5rp 6D6nmt 6DEo 6DFnmt 6E5r 6E7nmt 6E9o 6EAnmt
   6EErp 6F0e 6FArd 6FDr 6FFrd 700r 710rp 711nmt 712rd 715rp 71Ard 71Erp 71Frd 728rp 729rd 72Arp
   72Brd 72Crp 72Drd 72Frp 730nmt 74Drp 74Erd 759rp 75Crd 76Brp 76Drd 771rp 772rd 773rp 775rd
   778rp 77Ard 780r 7A6nmt 7B1r 7CArd 7EBnmt 7F4r 7F6o 7FAr 7FDnmt 7FEr 816nmt 81Ar 81Bnmt 824r
   825nmt 828r 829nmt 830r 840rp 841rd 846rp 848rd 849rp 84Ard 854rp 855rd 856rp 859nmt 85Er
   860rd 861r 862rd 866r 867rp 868rd 869rp 883r 886rd 887r 889rd 88Erp 88Frd 897nmt 8A0rd 8AArp
   8ADr 8AErp 8AFrd 8B1rp 8B3rd 8B9rp 8BArd 8C9r 8CAnmt 903lm 904l 93Anmt 93Blm 93Cnmt 93Dl 93Elm
   941nmt 949lm 94Dnmt 94Elm 950l 951nmt 960l 962nmt 964l 981nmt 982lm 985l 9BCnmt 9BDl 9BElm
   9C1nmt 9C7lm 9CDnmt 9CEl 9D7lm 9E0l 9E2nmt 9E6l 9F2o 9F4l 9FBo 9FCl 9FEnmt A03lm A05l A3Cnmt
   A3Elm A41nmt A5Cl A70nmt A72l A75nmt A76l A81nmt A83lm A85l ABCnmt ABDl ABElm AC1nmt AC9lm
   ACDnmt AD0l AE2nmt AE6l AF1o AF9l AFAnmt B02lm B05l B3Cnmt B3Dl B3Elm B3Fnmt B40lm B41nmt
   B47lm B4Dnmt B57lm B5Fl B62nmt B66l B82nmt B83l BBElm BC0nmt BC1lm BCDnmt BD0l BD7lm BE6l BF3o
   C00nmt C01lm C04nmt C05l C3Cnmt C3Dl C3Enmt C41lm C46nmt C58l C62nmt C66l C78o C7Fl C81nmt
   C82lm C84l CBCnmt CBDl CBElm CBFlmt CC0lm CC6lmt CC7lm CCCnmt CD5lm CDCl CE2nmt CE6l CF3lm
   D00nmt D02lm D04l D3Bnmt D3Dl D3Elm D41nmt D46lm D4Dnmt D4El D57lm D58l D62nmt D66l D81nmt
   D82lm D85l DCAnmt DCFlm DD2nmt DD8lm DE6l DF2lm DF4l E31nmt E32l E34nmt E3Fo E40l E47nmt E4Fl
   EB1nmt EB2l EB4nmt EBDl EC8nmt ED0l F18nmt F1Al F35nmt F36l F37nmt F38l F39nmt F3Ao F3Elm F40l
   F71nmt F7Flm F80nmt F85l F86nmt F88l F8Dnmt FBEl FC6nmt FC7l 102Blm 102Dnmt 1031lm 1032nmt
   1038lm 1039nmt 103Blm 103Dnmt 103Fl 1056lm 1058nmt 105Al 105Enmt 1061l 1062lm 1065l 1067lm
   106El 1071nmt 1075l 1082nmt 1083lm 1085nmt 1087lm 108Dnmt 108El 108Flm 1090l 109Alm 109Dnmt
   109El 135Dnmt 1360l 1390o 13A0l 1400o 1401l 169Bo 16A0l 1712nmt 1715lm 171Fl 1732nmt 1734lm
   1735l 1752nmt 1760l 1772nmt 1780l 17B6lm 17B7nmt 17BElm 17C6nmt 17C7lm 17C9nmt 17D4l 17DBo
   17DCl 17DDnmt 17E0l 17F0o 1807od 1808o 1810l 1820ld 1880l 1885nmt 1887ld 18A9nmt 18AAld 18B0l
   1920nmt 1923lm 1927nmt 1929lm 1932nmt 1933lm 1939nmt 1940o 1946l 19DEo 1A00l 1A17nmt 1A19lm
   1A1Bnmt 1A1El 1A55lm 1A56nmt 1A57lm 1A58nmt 1A61lm 1A62nmt 1A63lm 1A65nmt 1A6Dlm 1A73nmt 1A80l
   1AB0nmt 1B04lm 1B05l 1B34nmt 1B35lm 1B36nmt 1B3Blm 1B3Cnmt 1B3Dlm 1B42nmt 1B43lm 1B45l 1B6Bnmt
   1B74l 1B80nmt 1B82lm 1B83l 1BA1lm 1BA2nmt 1BA6lm 1BA8nmt 1BAAlm 1BABnmt 1BAEl 1BE6nmt 1BE7lm
   1BE8nmt 1BEAlm 1BEDnmt 1BEElm 1BEFnmt 1BF2lm 1BFCl 1C24lm 1C2Cnmt 1C34lm 1C36nmt 1C3Bl 1CD0nmt
   1CD3l 1CD4nmt 1CE1lm 1CE2nmt 1CE9l 1CEDnmt 1CEEl 1CF4nmt 1CF5l 1CF7lm 1CF8nmt 1CFAl 1DC0nmt
   1E01l 200Co 20D0nmt 2104o 214El 218Ao 2336l 237Bo 2395l 2396o 26ACl 26ADo 2800l 2900o 2C30l
   2CE5o 2CECl 2CEFnmt 2CF3l 2CF9o 2D00l 2D7Fnmt 2D80l 2DE0nmt 2E00o 3005l 3008o 3021l 302Anmt
   302Elm 3030o 3031l 3037o 303Bl 303Do 3041l 3099nmt 309Dl 30A0o 30A1l 30FBo 30FCl 31C0o 31F0l
   4DC0o 4E00l A490o A4D0l A60Do A610l A66Fnmt A673o A674nmt A67Eo A681l A69Enmt A6A0l A6F0nmt
   A6F2l A700o A723l A788o A789l A802nmt A803l A806nmt A807l A80Bnmt A80Cl A823lm A825nmt A827lm
   A828o A82Cnmt A830l A838o A840ld A872lf A873l A874o A880lm A882l A8B4lm A8C4nmt A8CEl A8E0nmt
   A8F2l A8FFnmt A900l A926nmt A92El A947nmt A952lm A95Fl A980nmt A983lm A984l A9B3nmt A9B4lm
   A9B6nmt A9BAlm A9BCnmt A9BElm A9C1l A9E5nmt A9E6l AA29nmt AA2Flm AA31nmt AA33lm AA35nmt AA40l
   AA43nmt AA44l AA4Cnmt AA4Dlm AA50l AA7Blm AA7Cnmt AA7Dlm AA7El AAB0nmt AAB1l AAB2nmt AAB5l
   AAB7nmt AAB9l AABEnmt AAC0l AAC1nmt AAC2l AAEBlm AAECnmt AAEElm AAF0l AAF5lm AAF6nmt AB01l
   AB6Ao ABC0l ABE3lm ABE5nmt ABE6lm ABE8nmt ABE9lm ABEBl ABEClm ABEDnmt ABF0l FB1Enmt FBB2r
   FBC3o FE20nmt FE45o FE73r 10000l 10101o 10102l 10140o 1018Dl 10190o 101D0l 101FDnmt 10280l
   102E0nmt 102E1e 10300l 10376nmt 10380l 10800r 1091Fo 10920r 10A01nmt 10A10r 10A38nmt 10A40r
   10AC0rd 10AC5rp 10AC6r 10AC7rp 10AC8r 10AC9rp 10ACBr 10ACDrf 10ACErp 10AD3rd 10AD7rf 10AD8rd
   10ADDrp 10ADErd 10AE1rp 10AE2r 10AE4rp 10AE5nmt 10AEBrd 10AEFrp 10AF0r 10B39o 10B40r 10B80rd
   10B81rp 10B82rd 10B83rp 10B86rd 10B89rp 10B8Ard 10B8Crp 10B8Drd 10B8Erp 10B90rd 10B91rp 10B99r
   10BA9rp 10BADrd 10BAFr 10D00rf 10D01rd 10D22rp 10D23rd 10D24nmt 10D30a 10D40r 10D69nmt 10D6Eo
   10D6Fr 10E60a 10E80r 10EABnmt 10EADr 10EC2rp 10EC3rd 10EC5r 10EC6rd 10ED0r 10ED1o 10EFAnmt
   10F00r 10F30rd 10F33rp 10F34rd 10F45r 10F46nmt 10F51rd 10F54rp 10F55r 10F70rd 10F74rp 10F76rd
   10F82nmt 10F86r 10FB0rd 10FB1r 10FB2rd 10FB4rp 10FB7r 10FB8rd 10FB9rp 10FBBrd 10FBDrp 10FBErd
   10FC0r 10FC1rd 10FC2rp 10FC4rd 10FC5r 10FC9rp 10FCArd 10FCBrf 10FE0r 11000lm 11001nmt 11002lm
   11003l 11038nmt 11047l 11052o 11066l 11070nmt 11071l 11073nmt 11075l 1107Fnmt 11082lm 11083l
   110B0lm 110B3nmt 110B7lm 110B9nmt 110BBl 110C2nmt 110D0l 11100nmt 11103l 11127nmt 1112Clm
   1112Dnmt 11136l 11145lm 11147l 11173nmt 11174l 11180nmt 11182lm 11183l 111B3lm 111B6nmt
   111BFlm 111C1l 111C9nmt 111CDl 111CElm 111CFnmt 111D0l 1122Clm 1122Fnmt 11232lm 11234nmt
   11235lm 11236nmt 11238l 1123Enmt 1123Fl 11241nmt 11280l 112DFnmt 112E0lm 112E3nmt 112F0l
   11300nmt 11302lm 11305l 1133Bnmt 1133Dl 1133Elm 11340nmt 11341lm 11350l 11357lm 1135Dl 11362lm
   11366nmt 11380l 113B8lm 113BBnmt 113C2lm 113CEnmt 113CFlm 113D0nmt 113D1l 113D2nmt 113D3l
   113E1nmt 11400l 11435lm 11438nmt 11440lm 11442nmt 11445lm 11446nmt 11447l 1145Enmt 1145Fl
   114B0lm 114B3nmt 114B9lm 114BAnmt 114BBlm 114BFnmt 114C1lm 114C2nmt 114C4l 115AFlm 115B2nmt
   115B8lm 115BCnmt 115BElm 115BFnmt 115C1l 115DCnmt 11600l 11630lm 11633nmt 1163Blm 1163Dnmt
   1163Elm 1163Fnmt 11641l 11660o 11680l 116ABnmt 116AClm 116ADnmt 116AElm 116B0nmt 116B6lm
   116B7nmt 116B8l 1171Dnmt 1171Enm 1171Fnmt 11720lm 11722nmt 11726lm 11727nmt 11730l 1182Clm
   1182Fnmt 11838lm 11839nmt 1183Bl 11930lm 1193Bnmt 1193Dlm 1193Enmt 1193Fl 11940lm 11941l
   11942lm 11943nmt 11944l 119D1lm 119D4nmt 119DClm 119E0nmt 119E1l 119E4lm 11A00l 11A01nmt
   11A07lmt 11A09nmt 11A0Bl 11A33nmt 11A39lm 11A3Al 11A3Bnmt 11A3Fl 11A47nmt 11A50l 11A51nmt
   11A57lm 11A59nmt 11A5Cl 11A8Anmt 11A97lm 11A98nmt 11A9Al 11B60nmt 11B61lm 11B62nmt 11B65lm
   11B66nmt 11B67lm 11BC0l 11C2Flm 11C30nmt 11C3Elm 11C3Flmt 11C40l 11C92nmt 11CA9lm 11CAAnmt
   11CB1lm 11CB2nmt 11CB4lm 11CB5nmt 11D00l 11D31nmt 11D46l 11D47nmt 11D50l 11D8Alm 11D90nmt
   11D93lm 11D95nmt 11D96lm 11D97nmt 11D98l 11EF3nmt 11EF5lm 11EF7l 11F00nmt 11F02l 11F03lm
   11F04l 11F34lm 11F36nmt 11F3Elm 11F40nmt 11F41lm 11F42nmt 11F43l 11F5Anmt 11FB0l 11FD5o 11FFFl
   13440nmt 13441l 13447nmt 13460l 1611Enmt 1612Alm 1612Dnmt 16130l 16AF0nmt 16AF5l 16B30nmt
   16B37l 16F4Fnmt 16F50l 16F51lm 16F8Fnmt 16F93l 16FE2o 16FE3l 16FE4nmt 16FF0lm 16FF2l 1BC9Dnmt
   1BC9Fl 1CC00o 1CF00nmt 1CF50l 1D165lm 1D167nmt 1D16Al 1D16Dlm 1D17Bnmt 1D183l 1D185nmt 1D18Cl
   1D1AAnmt 1D1AEl 1D1E9o 1D242nmt 1D245o 1D2C0l 1D300o 1D360l 1DA00nmt 1DA37l 1DA3Bnmt 1DA6Dl
   1DA75nmt 1DA76l 1DA84nmt 1DA85l 1DA9Bnmt 1DF00l 1E000nmt 1E100l 1E130nmt 1E137l 1E2AEnmt
   1E2C0l 1E2ECnmt 1E2F0l 1E2FFo 1E4D0l 1E4ECnmt 1E4F0l 1E5EEnmt 1E5F0l 1E6E3nmt 1E6E4l 1E6E6nmt
   1E6E7l 1E6EEnmt 1E6F0l 1E6F5nmt 1E6FEl 1E800r 1E8D0nmt 1E922rd 1E944nmt 1E94Brt 1E950r 1EEF0o
   1F150l 1F16Do 1F170l 1F1ADo 1F1E6l 1F260o 20000l"

/-- The kind of a character. -/
def of (c : Char) : CharacterKind :=
  if c.toNat < 0x80 then
    let direction :=
      if c.isAlpha then .leftToRight else if c.isDigit then .europeanNumber else .neutral
    ⟨direction, false, .none⟩
  else (table.get? c).getD ⟨.leftToRight, false, .none⟩

end CharacterKind

end QueryDispatch.Text
