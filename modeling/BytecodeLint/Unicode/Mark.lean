import BytecodeLint.Unicode.Span

/-!
# Combining marks

A combining mark joins the character in front of it. Its class tells where it attaches: marks of
different classes may change places, marks of the same class may not. Class 0 never moves, and class
9 is that of the viramas. The table covers the characters that a domain may hold.
-/

namespace BytecodeLint.Unicode

/-- The classes of the marks, as a table. -/
def markLines : List String := [
  "300-314=E6 315=E8 316-319=DC 31A=E8 31B=D8 31C-320=DC 321-322=CA 323-326=DC 327-328=CA",
  "329-333=DC 334-338=1 339-33C=DC 33D-346=E6 347-349=DC 34A-34C=E6 34D-34E=DC 350-352=E6",
  "353-356=DC 357=E6 358=E8 359-35A=DC 35B=E6 35C=E9 35D-35E=EA 35F=E9 360-361=EA 362=E9",
  "363-36F=E6 483-487=E6 488-489=0 591=DC 592-595=E6 596=DC 597-599=E6 59A=DE 59B=DC 59C-5A1=E6",
  "5A2-5A7=DC 5A8-5A9=E6 5AA=DC 5AB-5AC=E6 5AD=DE 5AE=E4 5AF=E6 5B0=A 5B1=B 5B2=C 5B3=D 5B4=E",
  "5B5=F 5B6=10 5B7=11 5B8=12 5B9-5BA=13 5BB=14 5BC=15 5BD=16 5BF=17 5C1=18 5C2=19 5C4=E6 5C5=DC",
  "5C7=12 610-617=E6 618=1E 619=1F 61A=20 64B=1B 64C=1C 64D=1D 64E=1E 64F=1F 650=20 651=21",
  "652=22 653-654=E6 655-656=DC 657-65B=E6 65C=DC 65D-65E=E6 65F=DC 670=23 6D6-6DC=E6 6DF-6E2=E6",
  "6E3=DC 6E4=E6 6E7-6E8=E6 6EA=DC 6EB-6EC=E6 6ED=DC 711=24 730=E6 731=DC 732-733=E6 734=DC",
  "735-736=E6 737-739=DC 73A=E6 73B-73C=DC 73D=E6 73E=DC 73F-741=E6 742=DC 743=E6 744=DC 745=E6",
  "746=DC 747=E6 748=DC 749-74A=E6 7A6-7B0=0 7EB-7F1=E6 7F2=DC 7F3=E6 7FD=DC 816-819=E6",
  "81B-823=E6 825-827=E6 829-82D=E6 859-85B=DC 897-898=E6 899-89B=DC 89C-89F=E6 8CA-8CE=E6",
  "8CF-8D3=DC 8D4-8E1=E6 8E3=DC 8E4-8E5=E6 8E6=DC 8E7-8E8=E6 8E9=DC 8EA-8EC=E6 8ED-8EF=DC 8F0=1B",
  "8F1=1C 8F2=1D 8F3-8F5=E6 8F6=DC 8F7-8F8=E6 8F9-8FA=DC 8FB-8FF=E6 900-903=0 93A-93B=0 93C=7",
  "93E-94C=0 94D=9 94E-94F=0 951=E6 952=DC 953-954=E6 955-957=0 962-963=0 981-983=0 9BC=7",
  "9BE-9CC=0 9CD=9 9D7=0 9E2-9E3=0 9FE=E6 A01-A03=0 A3C=7 A3E-A4C=0 A4D=9 A51=0 A70-A71=0 A75=0",
  "A81-A83=0 ABC=7 ABE-ACC=0 ACD=9 AE2-AE3=0 AFA-B03=0 B3C=7 B3E-B4C=0 B4D=9 B55-B57=0 B62-B63=0",
  "B82=0 BBE-BCC=0 BCD=9 BD7=0 C00-C04=0 C3C=7 C3E-C4C=0 C4D=9 C55=54 C56=5B C62-C63=0 C81-C83=0",
  "CBC=7 CBE-CCC=0 CCD=9 CD5-CD6=0 CE2-CE3=0 CF3-D03=0 D3B-D3C=9 D3E-D4C=0 D4D=9 D57=0 D62-D63=0",
  "D81-D83=0 DCA=9 DCF-DDF=0 DF2-DF3=0 E31=0 E34-E37=0 E38-E39=67 E3A=9 E47=0 E48-E4B=6B",
  "E4C-E4E=0 EB1=0 EB4-EB7=0 EB8-EB9=76 EBA=9 EBB-EBC=0 EC8-ECB=7A ECC-ECE=0 F18-F19=DC F35=DC",
  "F37=DC F39=D8 F3E-F3F=0 F71=81 F72=82 F74=84 F7A-F7D=82 F7E-F7F=0 F80=82 F82-F83=E6 F84=9",
  "F86-F87=E6 F8D-FBC=0 FC6=DC 102B-1036=0 1037=7 1038=0 1039-103A=9 103B-103E=0 1056-1059=0",
  "105E-1060=0 1062-1064=0 1067-106D=0 1071-1074=0 1082-108C=0 108D=DC 108F=0 109A-109D=0",
  "135D-135F=E6 1712-1713=0 1714-1715=9 1732-1733=0 1734=9 1752-1753=0 1772-1773=0 17B6-17D1=0",
  "17D2=9 17D3=0 17DD=E6 1885-1886=0 18A9=E4 1920-1938=0 1939=DE 193A=E6 193B=DC 1A17=E6 1A18=DC",
  "1A19-1A1B=0 1A55-1A5E=0 1A60=9 1A61-1A74=0 1A75-1A7C=E6 1A7F=DC 1AB0-1AB4=E6 1AB5-1ABA=DC",
  "1ABB-1ABC=E6 1ABD=DC 1ABE=0 1ABF-1AC0=DC 1AC1-1AC2=E6 1AC3-1AC4=DC 1AC5-1AC9=E6 1ACA=DC",
  "1ACB-1ADC=E6 1ADD=DC 1AE0-1AEA=E6 1AEB=EA 1B00-1B04=0 1B34=7 1B35-1B43=0 1B44=9 1B6B=E6",
  "1B6C=DC 1B6D-1B73=E6 1B80-1B82=0 1BA1-1BA9=0 1BAA-1BAB=9 1BAC-1BAD=0 1BE6=7 1BE7-1BF1=0",
  "1BF2-1BF3=9 1C24-1C36=0 1C37=7 1CD0-1CD2=E6 1CD4=1 1CD5-1CD9=DC 1CDA-1CDB=E6 1CDC-1CDF=DC",
  "1CE0=E6 1CE1=0 1CE2-1CE8=1 1CED=DC 1CF4=E6 1CF7=0 1CF8-1CF9=E6 1DC0-1DC1=E6 1DC2=DC",
  "1DC3-1DC9=E6 1DCA=DC 1DCB-1DCC=E6 1DCD=EA 1DCE=D6 1DCF=DC 1DD0=CA 1DD1-1DF5=E6 1DF6=E8",
  "1DF7-1DF8=E4 1DF9=DC 1DFA=DA 1DFB=E6 1DFC=E9 1DFD=DC 1DFE=E6 1DFF=DC 20D0-20D1=E6 20D2-20D3=1",
  "20D4-20D7=E6 20D8-20DA=1 20DB-20DC=E6 20DD-20E0=0 20E1=E6 20E2-20E4=0 20E5-20E6=1 20E7=E6",
  "20E8=DC 20E9=E6 20EA-20EB=1 20EC-20EF=DC 20F0=E6 2CEF-2CF1=E6 2D7F=9 2DE0-2DFF=E6 302A=DA",
  "302B=E4 302C=E8 302D=DE 302E-302F=E0 3099-309A=8 A66F=E6 A670-A672=0 A674-A67D=E6",
  "A69E-A69F=E6 A6F0-A6F1=E6 A802=0 A806=9 A80B=0 A823-A827=0 A82C=9 A880-A881=0 A8B4-A8C3=0",
  "A8C4=9 A8C5=0 A8E0-A8F1=E6 A8FF=0 A926-A92A=0 A92B-A92D=DC A947-A952=0 A953=9 A980-A983=0",
  "A9B3=7 A9B4-A9BF=0 A9C0=9 A9E5=0 AA29-AA36=0 AA43=0 AA4C-AA4D=0 AA7B-AA7D=0 AAB0=E6",
  "AAB2-AAB3=E6 AAB4=DC AAB7-AAB8=E6 AABE-AABF=E6 AAC1=E6 AAEB-AAEF=0 AAF5=0 AAF6=9 ABE3-ABEA=0",
  "ABEC=0 ABED=9 FB1E=1A FE20-FE26=E6 FE27-FE2D=DC FE2E-FE2F=E6 101FD=DC 102E0=DC 10376-1037A=E6",
  "10A01-10A0C=0 10A0D=DC 10A0E=0 10A0F=E6 10A38=E6 10A39=1 10A3A=DC 10A3F=9 10AE5=E6 10AE6=DC",
  "10D24-10D27=E6 10D69-10D6D=E6 10EAB-10EAC=E6 10EFA-10EFB=DC 10EFC=0 10EFD-10EFF=DC",
  "10F46-10F47=DC 10F48-10F4A=E6 10F4B=DC 10F4C=E6 10F4D-10F50=DC 10F82=E6 10F83=DC 10F84=E6",
  "10F85=DC 11000-11002=0 11038-11045=0 11046=9 11070=9 11073-11074=0 1107F=9 11080-11082=0",
  "110B0-110B8=0 110B9=9 110BA=7 110C2=0 11100-11102=E6 11127-11132=0 11133-11134=9",
  "11145-11146=0 11173=7 11180-11182=0 111B3-111BF=0 111C0=9 111C9=0 111CA=7 111CB-111CC=0",
  "111CE-111CF=0 1122C-11234=0 11235=9 11236=7 11237=0 1123E=0 11241=0 112DF-112E8=0 112E9=7",
  "112EA=9 11300-11303=0 1133B-1133C=7 1133E-1134C=0 1134D=9 11357=0 11362-11363=0",
  "11366-11374=E6 113B8-113CD=0 113CE-113D0=9 113D2=0 113E1-113E2=E6 11435-11441=0 11442=9",
  "11443-11445=0 11446=7 1145E=E6 114B0-114C1=0 114C2=9 114C3=7 115AF-115BE=0 115BF=9 115C0=7",
  "115DC-115DD=0 11630-1163E=0 1163F=9 11640=0 116AB-116B5=0 116B6=9 116B7=7 1171D-1172A=0",
  "1172B=9 1182C-11838=0 11839=9 1183A=7 11930-1193C=0 1193D-1193E=9 11940=0 11942=0 11943=7",
  "119D1-119DF=0 119E0=9 119E4=0 11A01-11A0A=0 11A33=0 11A34=9 11A35-11A39=0 11A3B-11A3E=0",
  "11A47=9 11A51-11A5B=0 11A8A-11A98=0 11A99=9 11B60-11B67=0 11C2F-11C3E=0 11C3F=9 11C92-11CB6=0",
  "11D31-11D41=0 11D42=7 11D43=0 11D44-11D45=9 11D47=0 11D8A-11D96=0 11D97=9 11EF3-11EF6=0",
  "11F00-11F01=0 11F03=0 11F34-11F40=0 11F41-11F42=9 11F5A=7 13440=0 13447-13455=0 1611E-1612E=0",
  "1612F=9 16AF0-16AF4=1 16B30-16B36=E6 16F4F=0 16F51-16F92=0 16FE4=0 16FF0-16FF1=6 1BC9D=0",
  "1BC9E=1 1CF00-1CF46=0 1D165-1D166=D8 1D167-1D169=1 1D16D=E2 1D16E-1D172=D8 1D17B-1D182=DC",
  "1D185-1D189=E6 1D18A-1D18B=DC 1D1AA-1D1AD=E6 1D242-1D244=E6 1DA00-1DA36=0 1DA3B-1DA6C=0",
  "1DA75=0 1DA84=0 1DA9B-1DAAF=0 1E000-1E08F=E6 1E130-1E136=E6 1E2AE=E6 1E2EC-1E2EF=E6",
  "1E4EC-1E4ED=E8 1E4EE=DC 1E4EF=E6 1E5EE=E6 1E5EF=DC 1E6E3=E6 1E6E6=E6 1E6EE-1E6EF=E6 1E6F5=E6",
  "1E8D0-1E8D6=DC 1E944-1E949=E6 1E94A=7"]

def marks : Array (Span Nat) := Span.ofLines (Text.ofDigits? 16) markLines

def isMark (n : Nat) : Bool := Span.contains marks n

/-- The combining class of a character; 0 for all but marks. -/
def combiningClass (n : Nat) : Nat := (Span.get? marks n).getD 0

def isVirama (n : Nat) : Bool := combiningClass n == 9

end BytecodeLint.Unicode
