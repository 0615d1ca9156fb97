set_option autoImplicit false

namespace Criteria.Text.Named

def further : List (Nat × String) :=
  [(0, "NULL;NUL"), (1, "START OF HEADING;SOH"), (2, "START OF TEXT;STX"), (3, "END OF TEXT;ETX"),
   (4, "END OF TRANSMISSION;EOT"), (5, "ENQUIRY;ENQ"), (6, "ACKNOWLEDGE;ACK"), (7, "ALERT;BEL"),
   (8, "BACKSPACE;BS"), (9, "CHARACTER TABULATION;HORIZONTAL TABULATION;HT;TAB"),
   (10, "LINE FEED;NEW LINE;END OF LINE;LF;NL;EOL"),
   (11, "LINE TABULATION;VERTICAL TABULATION;VT"), (12, "FORM FEED;FF"),
   (13, "CARRIAGE RETURN;CR"), (14, "SHIFT OUT;LOCKING-SHIFT ONE;SO"),
   (15, "SHIFT IN;LOCKING-SHIFT ZERO;SI"), (16, "DATA LINK ESCAPE;DLE"),
   (17, "DEVICE CONTROL ONE;DC1"), (18, "DEVICE CONTROL TWO;DC2"),
   (19, "DEVICE CONTROL THREE;DC3"), (20, "DEVICE CONTROL FOUR;DC4"),
   (21, "NEGATIVE ACKNOWLEDGE;NAK"), (22, "SYNCHRONOUS IDLE;SYN"),
   (23, "END OF TRANSMISSION BLOCK;ETB"), (24, "CANCEL;CAN"), (25, "END OF MEDIUM;EOM"),
   (26, "SUBSTITUTE;SUB"), (27, "ESCAPE;ESC"),
   (28, "INFORMATION SEPARATOR FOUR;FILE SEPARATOR;FS"),
   (29, "INFORMATION SEPARATOR THREE;GROUP SEPARATOR;GS"),
   (30, "INFORMATION SEPARATOR TWO;RECORD SEPARATOR;RS"),
   (31, "INFORMATION SEPARATOR ONE;UNIT SEPARATOR;US"), (32, "SP"), (127, "DELETE;DEL"),
   (128, "PADDING CHARACTER;PAD"), (129, "HIGH OCTET PRESET;HOP"),
   (130, "BREAK PERMITTED HERE;BPH"), (131, "NO BREAK HERE;NBH"), (132, "INDEX;IND"),
   (133, "NEXT LINE;NEL"), (134, "START OF SELECTED AREA;SSA"), (135, "END OF SELECTED AREA;ESA"),
   (136, "CHARACTER TABULATION SET;HTS"), (139, "PARTIAL LINE FORWARD;PLD"),
   (140, "PARTIAL LINE BACKWARD;PLU"), (141, "REVERSE LINE FEED;RI"),
   (142, "SINGLE SHIFT TWO;SS2"), (143, "SINGLE SHIFT THREE;SS3"),
   (144, "DEVICE CONTROL STRING;DCS"), (145, "PRIVATE USE ONE;PU1"), (146, "PRIVATE USE TWO;PU2"),
   (147, "SET TRANSMIT STATE;STS"), (148, "CANCEL CHARACTER;CCH"), (149, "MESSAGE WAITING;MW"),
   (150, "START OF GUARDED AREA;SPA"), (151, "END OF GUARDED AREA;EPA"),
   (152, "START OF STRING;SOS"), (154, "SINGLE CHARACTER INTRODUCER;SCI"),
   (155, "CONTROL SEQUENCE INTRODUCER;CSI"), (156, "STRING TERMINATOR;ST"),
   (157, "OPERATING SYSTEM COMMAND;OSC"), (158, "PRIVACY MESSAGE;PM"),
   (159, "APPLICATION PROGRAM COMMAND;APC"), (160, "NBSP"), (173, "SHY"),
   (418, "LATIN CAPITAL LETTER GHA"), (847, "CGJ"), (1564, "ALM"), (8203, "ZWSP"), (8204, "ZWNJ"),
   (8205, "ZWJ"), (8206, "LRM"), (8207, "RLM"), (8234, "LRE"), (8235, "RLE"), (8236, "PDF"),
   (8237, "LRO"), (8238, "RLO"), (8239, "NNBSP"), (8287, "MMSP"), (8288, "WJ"), (8294, "LRI"),
   (8295, "RLI"), (8296, "FSI"), (8297, "PDI"), (8472, "WEIERSTRASS ELLIPTIC FUNCTION"),
   (65024, "VS1"), (65039, "VS16"), (65279, "BOM;BYTE ORDER MARK;ZWNBSP")]

end Criteria.Text.Named
