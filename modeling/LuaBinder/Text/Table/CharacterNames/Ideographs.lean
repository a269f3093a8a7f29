/-! Character names of Tangut components, Khitan, Kana and Nushu, code points 18000 to 1CFFF of Unicode 14. Entries end at
semicolons and line breaks: the code point where it does not follow the one before, the
number of leading words shared with the name before, and the other words. -/

namespace LuaBinder.Text.Table

def ideographsNames : String :=
  "18800:0TANGUT COMPONENT-001;1COMPONENT-002;1COMPONENT-003;1COMPONENT-004;1COMPONENT-005
1COMPONENT-006;1COMPONENT-007;1COMPONENT-008;1COMPONENT-009;1COMPONENT-010;1COMPONENT-011
1COMPONENT-012;1COMPONENT-013;1COMPONENT-014;1COMPONENT-015;1COMPONENT-016;1COMPONENT-017
1COMPONENT-018;1COMPONENT-019;1COMPONENT-020;1COMPONENT-021;1COMPONENT-022;1COMPONENT-023
1COMPONENT-024;1COMPONENT-025;1COMPONENT-026;1COMPONENT-027;1COMPONENT-028;1COMPONENT-029
1COMPONENT-030;1COMPONENT-031;1COMPONENT-032;1COMPONENT-033;1COMPONENT-034;1COMPONENT-035
1COMPONENT-036;1COMPONENT-037;1COMPONENT-038;1COMPONENT-039;1COMPONENT-040;1COMPONENT-041
1COMPONENT-042;1COMPONENT-043;1COMPONENT-044;1COMPONENT-045;1COMPONENT-046;1COMPONENT-047
1COMPONENT-048;1COMPONENT-049;1COMPONENT-050;1COMPONENT-051;1COMPONENT-052;1COMPONENT-053
1COMPONENT-054;1COMPONENT-055;1COMPONENT-056;1COMPONENT-057;1COMPONENT-058;1COMPONENT-059
1COMPONENT-060;1COMPONENT-061;1COMPONENT-062;1COMPONENT-063;1COMPONENT-064;1COMPONENT-065
1COMPONENT-066;1COMPONENT-067;1COMPONENT-068;1COMPONENT-069;1COMPONENT-070;1COMPONENT-071
1COMPONENT-072;1COMPONENT-073;1COMPONENT-074;1COMPONENT-075;1COMPONENT-076;1COMPONENT-077
1COMPONENT-078;1COMPONENT-079;1COMPONENT-080;1COMPONENT-081;1COMPONENT-082;1COMPONENT-083
1COMPONENT-084;1COMPONENT-085;1COMPONENT-086;1COMPONENT-087;1COMPONENT-088;1COMPONENT-089
1COMPONENT-090;1COMPONENT-091;1COMPONENT-092;1COMPONENT-093;1COMPONENT-094;1COMPONENT-095
1COMPONENT-096;1COMPONENT-097;1COMPONENT-098;1COMPONENT-099;1COMPONENT-100;1COMPONENT-101
1COMPONENT-102;1COMPONENT-103;1COMPONENT-104;1COMPONENT-105;1COMPONENT-106;1COMPONENT-107
1COMPONENT-108;1COMPONENT-109;1COMPONENT-110;1COMPONENT-111;1COMPONENT-112;1COMPONENT-113
1COMPONENT-114;1COMPONENT-115;1COMPONENT-116;1COMPONENT-117;1COMPONENT-118;1COMPONENT-119
1COMPONENT-120;1COMPONENT-121;1COMPONENT-122;1COMPONENT-123;1COMPONENT-124;1COMPONENT-125
1COMPONENT-126;1COMPONENT-127;1COMPONENT-128;1COMPONENT-129;1COMPONENT-130;1COMPONENT-131
1COMPONENT-132;1COMPONENT-133;1COMPONENT-134;1COMPONENT-135;1COMPONENT-136;1COMPONENT-137
1COMPONENT-138;1COMPONENT-139;1COMPONENT-140;1COMPONENT-141;1COMPONENT-142;1COMPONENT-143
1COMPONENT-144;1COMPONENT-145;1COMPONENT-146;1COMPONENT-147;1COMPONENT-148;1COMPONENT-149
1COMPONENT-150;1COMPONENT-151;1COMPONENT-152;1COMPONENT-153;1COMPONENT-154;1COMPONENT-155
1COMPONENT-156;1COMPONENT-157;1COMPONENT-158;1COMPONENT-159;1COMPONENT-160;1COMPONENT-161
1COMPONENT-162;1COMPONENT-163;1COMPONENT-164;1COMPONENT-165;1COMPONENT-166;1COMPONENT-167
1COMPONENT-168;1COMPONENT-169;1COMPONENT-170;1COMPONENT-171;1COMPONENT-172;1COMPONENT-173
1COMPONENT-174;1COMPONENT-175;1COMPONENT-176;1COMPONENT-177;1COMPONENT-178;1COMPONENT-179
1COMPONENT-180;1COMPONENT-181;1COMPONENT-182;1COMPONENT-183;1COMPONENT-184;1COMPONENT-185
1COMPONENT-186;1COMPONENT-187;1COMPONENT-188;1COMPONENT-189;1COMPONENT-190;1COMPONENT-191
1COMPONENT-192;1COMPONENT-193;1COMPONENT-194;1COMPONENT-195;1COMPONENT-196;1COMPONENT-197
1COMPONENT-198;1COMPONENT-199;1COMPONENT-200;1COMPONENT-201;1COMPONENT-202;1COMPONENT-203
1COMPONENT-204;1COMPONENT-205;1COMPONENT-206;1COMPONENT-207;1COMPONENT-208;1COMPONENT-209
1COMPONENT-210;1COMPONENT-211;1COMPONENT-212;1COMPONENT-213;1COMPONENT-214;1COMPONENT-215
1COMPONENT-216;1COMPONENT-217;1COMPONENT-218;1COMPONENT-219;1COMPONENT-220;1COMPONENT-221
1COMPONENT-222;1COMPONENT-223;1COMPONENT-224;1COMPONENT-225;1COMPONENT-226;1COMPONENT-227
1COMPONENT-228;1COMPONENT-229;1COMPONENT-230;1COMPONENT-231;1COMPONENT-232;1COMPONENT-233
1COMPONENT-234;1COMPONENT-235;1COMPONENT-236;1COMPONENT-237;1COMPONENT-238;1COMPONENT-239
1COMPONENT-240;1COMPONENT-241;1COMPONENT-242;1COMPONENT-243;1COMPONENT-244;1COMPONENT-245
1COMPONENT-246;1COMPONENT-247;1COMPONENT-248;1COMPONENT-249;1COMPONENT-250;1COMPONENT-251
1COMPONENT-252;1COMPONENT-253;1COMPONENT-254;1COMPONENT-255;1COMPONENT-256;1COMPONENT-257
1COMPONENT-258;1COMPONENT-259;1COMPONENT-260;1COMPONENT-261;1COMPONENT-262;1COMPONENT-263
1COMPONENT-264;1COMPONENT-265;1COMPONENT-266;1COMPONENT-267;1COMPONENT-268;1COMPONENT-269
1COMPONENT-270;1COMPONENT-271;1COMPONENT-272;1COMPONENT-273;1COMPONENT-274;1COMPONENT-275
1COMPONENT-276;1COMPONENT-277;1COMPONENT-278;1COMPONENT-279;1COMPONENT-280;1COMPONENT-281
1COMPONENT-282;1COMPONENT-283;1COMPONENT-284;1COMPONENT-285;1COMPONENT-286;1COMPONENT-287
1COMPONENT-288;1COMPONENT-289;1COMPONENT-290;1COMPONENT-291;1COMPONENT-292;1COMPONENT-293
1COMPONENT-294;1COMPONENT-295;1COMPONENT-296;1COMPONENT-297;1COMPONENT-298;1COMPONENT-299
1COMPONENT-300;1COMPONENT-301;1COMPONENT-302;1COMPONENT-303;1COMPONENT-304;1COMPONENT-305
1COMPONENT-306;1COMPONENT-307;1COMPONENT-308;1COMPONENT-309;1COMPONENT-310;1COMPONENT-311
1COMPONENT-312;1COMPONENT-313;1COMPONENT-314;1COMPONENT-315;1COMPONENT-316;1COMPONENT-317
1COMPONENT-318;1COMPONENT-319;1COMPONENT-320;1COMPONENT-321;1COMPONENT-322;1COMPONENT-323
1COMPONENT-324;1COMPONENT-325;1COMPONENT-326;1COMPONENT-327;1COMPONENT-328;1COMPONENT-329
1COMPONENT-330;1COMPONENT-331;1COMPONENT-332;1COMPONENT-333;1COMPONENT-334;1COMPONENT-335
1COMPONENT-336;1COMPONENT-337;1COMPONENT-338;1COMPONENT-339;1COMPONENT-340;1COMPONENT-341
1COMPONENT-342;1COMPONENT-343;1COMPONENT-344;1COMPONENT-345;1COMPONENT-346;1COMPONENT-347
1COMPONENT-348;1COMPONENT-349;1COMPONENT-350;1COMPONENT-351;1COMPONENT-352;1COMPONENT-353
1COMPONENT-354;1COMPONENT-355;1COMPONENT-356;1COMPONENT-357;1COMPONENT-358;1COMPONENT-359
1COMPONENT-360;1COMPONENT-361;1COMPONENT-362;1COMPONENT-363;1COMPONENT-364;1COMPONENT-365
1COMPONENT-366;1COMPONENT-367;1COMPONENT-368;1COMPONENT-369;1COMPONENT-370;1COMPONENT-371
1COMPONENT-372;1COMPONENT-373;1COMPONENT-374;1COMPONENT-375;1COMPONENT-376;1COMPONENT-377
1COMPONENT-378;1COMPONENT-379;1COMPONENT-380;1COMPONENT-381;1COMPONENT-382;1COMPONENT-383
1COMPONENT-384;1COMPONENT-385;1COMPONENT-386;1COMPONENT-387;1COMPONENT-388;1COMPONENT-389
1COMPONENT-390;1COMPONENT-391;1COMPONENT-392;1COMPONENT-393;1COMPONENT-394;1COMPONENT-395
1COMPONENT-396;1COMPONENT-397;1COMPONENT-398;1COMPONENT-399;1COMPONENT-400;1COMPONENT-401
1COMPONENT-402;1COMPONENT-403;1COMPONENT-404;1COMPONENT-405;1COMPONENT-406;1COMPONENT-407
1COMPONENT-408;1COMPONENT-409;1COMPONENT-410;1COMPONENT-411;1COMPONENT-412;1COMPONENT-413
1COMPONENT-414;1COMPONENT-415;1COMPONENT-416;1COMPONENT-417;1COMPONENT-418;1COMPONENT-419
1COMPONENT-420;1COMPONENT-421;1COMPONENT-422;1COMPONENT-423;1COMPONENT-424;1COMPONENT-425
1COMPONENT-426;1COMPONENT-427;1COMPONENT-428;1COMPONENT-429;1COMPONENT-430;1COMPONENT-431
1COMPONENT-432;1COMPONENT-433;1COMPONENT-434;1COMPONENT-435;1COMPONENT-436;1COMPONENT-437
1COMPONENT-438;1COMPONENT-439;1COMPONENT-440;1COMPONENT-441;1COMPONENT-442;1COMPONENT-443
1COMPONENT-444;1COMPONENT-445;1COMPONENT-446;1COMPONENT-447;1COMPONENT-448;1COMPONENT-449
1COMPONENT-450;1COMPONENT-451;1COMPONENT-452;1COMPONENT-453;1COMPONENT-454;1COMPONENT-455
1COMPONENT-456;1COMPONENT-457;1COMPONENT-458;1COMPONENT-459;1COMPONENT-460;1COMPONENT-461
1COMPONENT-462;1COMPONENT-463;1COMPONENT-464;1COMPONENT-465;1COMPONENT-466;1COMPONENT-467
1COMPONENT-468;1COMPONENT-469;1COMPONENT-470;1COMPONENT-471;1COMPONENT-472;1COMPONENT-473
1COMPONENT-474;1COMPONENT-475;1COMPONENT-476;1COMPONENT-477;1COMPONENT-478;1COMPONENT-479
1COMPONENT-480;1COMPONENT-481;1COMPONENT-482;1COMPONENT-483;1COMPONENT-484;1COMPONENT-485
1COMPONENT-486;1COMPONENT-487;1COMPONENT-488;1COMPONENT-489;1COMPONENT-490;1COMPONENT-491
1COMPONENT-492;1COMPONENT-493;1COMPONENT-494;1COMPONENT-495;1COMPONENT-496;1COMPONENT-497
1COMPONENT-498;1COMPONENT-499;1COMPONENT-500;1COMPONENT-501;1COMPONENT-502;1COMPONENT-503
1COMPONENT-504;1COMPONENT-505;1COMPONENT-506;1COMPONENT-507;1COMPONENT-508;1COMPONENT-509
1COMPONENT-510;1COMPONENT-511;1COMPONENT-512;1COMPONENT-513;1COMPONENT-514;1COMPONENT-515
1COMPONENT-516;1COMPONENT-517;1COMPONENT-518;1COMPONENT-519;1COMPONENT-520;1COMPONENT-521
1COMPONENT-522;1COMPONENT-523;1COMPONENT-524;1COMPONENT-525;1COMPONENT-526;1COMPONENT-527
1COMPONENT-528;1COMPONENT-529;1COMPONENT-530;1COMPONENT-531;1COMPONENT-532;1COMPONENT-533
1COMPONENT-534;1COMPONENT-535;1COMPONENT-536;1COMPONENT-537;1COMPONENT-538;1COMPONENT-539
1COMPONENT-540;1COMPONENT-541;1COMPONENT-542;1COMPONENT-543;1COMPONENT-544;1COMPONENT-545
1COMPONENT-546;1COMPONENT-547;1COMPONENT-548;1COMPONENT-549;1COMPONENT-550;1COMPONENT-551
1COMPONENT-552;1COMPONENT-553;1COMPONENT-554;1COMPONENT-555;1COMPONENT-556;1COMPONENT-557
1COMPONENT-558;1COMPONENT-559;1COMPONENT-560;1COMPONENT-561;1COMPONENT-562;1COMPONENT-563
1COMPONENT-564;1COMPONENT-565;1COMPONENT-566;1COMPONENT-567;1COMPONENT-568;1COMPONENT-569
1COMPONENT-570;1COMPONENT-571;1COMPONENT-572;1COMPONENT-573;1COMPONENT-574;1COMPONENT-575
1COMPONENT-576;1COMPONENT-577;1COMPONENT-578;1COMPONENT-579;1COMPONENT-580;1COMPONENT-581
1COMPONENT-582;1COMPONENT-583;1COMPONENT-584;1COMPONENT-585;1COMPONENT-586;1COMPONENT-587
1COMPONENT-588;1COMPONENT-589;1COMPONENT-590;1COMPONENT-591;1COMPONENT-592;1COMPONENT-593
1COMPONENT-594;1COMPONENT-595;1COMPONENT-596;1COMPONENT-597;1COMPONENT-598;1COMPONENT-599
1COMPONENT-600;1COMPONENT-601;1COMPONENT-602;1COMPONENT-603;1COMPONENT-604;1COMPONENT-605
1COMPONENT-606;1COMPONENT-607;1COMPONENT-608;1COMPONENT-609;1COMPONENT-610;1COMPONENT-611
1COMPONENT-612;1COMPONENT-613;1COMPONENT-614;1COMPONENT-615;1COMPONENT-616;1COMPONENT-617
1COMPONENT-618;1COMPONENT-619;1COMPONENT-620;1COMPONENT-621;1COMPONENT-622;1COMPONENT-623
1COMPONENT-624;1COMPONENT-625;1COMPONENT-626;1COMPONENT-627;1COMPONENT-628;1COMPONENT-629
1COMPONENT-630;1COMPONENT-631;1COMPONENT-632;1COMPONENT-633;1COMPONENT-634;1COMPONENT-635
1COMPONENT-636;1COMPONENT-637;1COMPONENT-638;1COMPONENT-639;1COMPONENT-640;1COMPONENT-641
1COMPONENT-642;1COMPONENT-643;1COMPONENT-644;1COMPONENT-645;1COMPONENT-646;1COMPONENT-647
1COMPONENT-648;1COMPONENT-649;1COMPONENT-650;1COMPONENT-651;1COMPONENT-652;1COMPONENT-653
1COMPONENT-654;1COMPONENT-655;1COMPONENT-656;1COMPONENT-657;1COMPONENT-658;1COMPONENT-659
1COMPONENT-660;1COMPONENT-661;1COMPONENT-662;1COMPONENT-663;1COMPONENT-664;1COMPONENT-665
1COMPONENT-666;1COMPONENT-667;1COMPONENT-668;1COMPONENT-669;1COMPONENT-670;1COMPONENT-671
1COMPONENT-672;1COMPONENT-673;1COMPONENT-674;1COMPONENT-675;1COMPONENT-676;1COMPONENT-677
1COMPONENT-678;1COMPONENT-679;1COMPONENT-680;1COMPONENT-681;1COMPONENT-682;1COMPONENT-683
1COMPONENT-684;1COMPONENT-685;1COMPONENT-686;1COMPONENT-687;1COMPONENT-688;1COMPONENT-689
1COMPONENT-690;1COMPONENT-691;1COMPONENT-692;1COMPONENT-693;1COMPONENT-694;1COMPONENT-695
1COMPONENT-696;1COMPONENT-697;1COMPONENT-698;1COMPONENT-699;1COMPONENT-700;1COMPONENT-701
1COMPONENT-702;1COMPONENT-703;1COMPONENT-704;1COMPONENT-705;1COMPONENT-706;1COMPONENT-707
1COMPONENT-708;1COMPONENT-709;1COMPONENT-710;1COMPONENT-711;1COMPONENT-712;1COMPONENT-713
1COMPONENT-714;1COMPONENT-715;1COMPONENT-716;1COMPONENT-717;1COMPONENT-718;1COMPONENT-719
1COMPONENT-720;1COMPONENT-721;1COMPONENT-722;1COMPONENT-723;1COMPONENT-724;1COMPONENT-725
1COMPONENT-726;1COMPONENT-727;1COMPONENT-728;1COMPONENT-729;1COMPONENT-730;1COMPONENT-731
1COMPONENT-732;1COMPONENT-733;1COMPONENT-734;1COMPONENT-735;1COMPONENT-736;1COMPONENT-737
1COMPONENT-738;1COMPONENT-739;1COMPONENT-740;1COMPONENT-741;1COMPONENT-742;1COMPONENT-743
1COMPONENT-744;1COMPONENT-745;1COMPONENT-746;1COMPONENT-747;1COMPONENT-748;1COMPONENT-749
1COMPONENT-750;1COMPONENT-751;1COMPONENT-752;1COMPONENT-753;1COMPONENT-754;1COMPONENT-755
1COMPONENT-756;1COMPONENT-757;1COMPONENT-758;1COMPONENT-759;1COMPONENT-760;1COMPONENT-761
1COMPONENT-762;1COMPONENT-763;1COMPONENT-764;1COMPONENT-765;1COMPONENT-766;1COMPONENT-767
1COMPONENT-768;0KHITAN SMALL SCRIPT CHARACTER-18B00;3CHARACTER-18B01;3CHARACTER-18B02
3CHARACTER-18B03;3CHARACTER-18B04;3CHARACTER-18B05;3CHARACTER-18B06;3CHARACTER-18B07
3CHARACTER-18B08;3CHARACTER-18B09;3CHARACTER-18B0A;3CHARACTER-18B0B;3CHARACTER-18B0C
3CHARACTER-18B0D;3CHARACTER-18B0E;3CHARACTER-18B0F;3CHARACTER-18B10;3CHARACTER-18B11
3CHARACTER-18B12;3CHARACTER-18B13;3CHARACTER-18B14;3CHARACTER-18B15;3CHARACTER-18B16
3CHARACTER-18B17;3CHARACTER-18B18;3CHARACTER-18B19;3CHARACTER-18B1A;3CHARACTER-18B1B
3CHARACTER-18B1C;3CHARACTER-18B1D;3CHARACTER-18B1E;3CHARACTER-18B1F;3CHARACTER-18B20
3CHARACTER-18B21;3CHARACTER-18B22;3CHARACTER-18B23;3CHARACTER-18B24;3CHARACTER-18B25
3CHARACTER-18B26;3CHARACTER-18B27;3CHARACTER-18B28;3CHARACTER-18B29;3CHARACTER-18B2A
3CHARACTER-18B2B;3CHARACTER-18B2C;3CHARACTER-18B2D;3CHARACTER-18B2E;3CHARACTER-18B2F
3CHARACTER-18B30;3CHARACTER-18B31;3CHARACTER-18B32;3CHARACTER-18B33;3CHARACTER-18B34
3CHARACTER-18B35;3CHARACTER-18B36;3CHARACTER-18B37;3CHARACTER-18B38;3CHARACTER-18B39
3CHARACTER-18B3A;3CHARACTER-18B3B;3CHARACTER-18B3C;3CHARACTER-18B3D;3CHARACTER-18B3E
3CHARACTER-18B3F;3CHARACTER-18B40;3CHARACTER-18B41;3CHARACTER-18B42;3CHARACTER-18B43
3CHARACTER-18B44;3CHARACTER-18B45;3CHARACTER-18B46;3CHARACTER-18B47;3CHARACTER-18B48
3CHARACTER-18B49;3CHARACTER-18B4A;3CHARACTER-18B4B;3CHARACTER-18B4C;3CHARACTER-18B4D
3CHARACTER-18B4E;3CHARACTER-18B4F;3CHARACTER-18B50;3CHARACTER-18B51;3CHARACTER-18B52
3CHARACTER-18B53;3CHARACTER-18B54;3CHARACTER-18B55;3CHARACTER-18B56;3CHARACTER-18B57
3CHARACTER-18B58;3CHARACTER-18B59;3CHARACTER-18B5A;3CHARACTER-18B5B;3CHARACTER-18B5C
3CHARACTER-18B5D;3CHARACTER-18B5E;3CHARACTER-18B5F;3CHARACTER-18B60;3CHARACTER-18B61
3CHARACTER-18B62;3CHARACTER-18B63;3CHARACTER-18B64;3CHARACTER-18B65;3CHARACTER-18B66
3CHARACTER-18B67;3CHARACTER-18B68;3CHARACTER-18B69;3CHARACTER-18B6A;3CHARACTER-18B6B
3CHARACTER-18B6C;3CHARACTER-18B6D;3CHARACTER-18B6E;3CHARACTER-18B6F;3CHARACTER-18B70
3CHARACTER-18B71;3CHARACTER-18B72;3CHARACTER-18B73;3CHARACTER-18B74;3CHARACTER-18B75
3CHARACTER-18B76;3CHARACTER-18B77;3CHARACTER-18B78;3CHARACTER-18B79;3CHARACTER-18B7A
3CHARACTER-18B7B;3CHARACTER-18B7C;3CHARACTER-18B7D;3CHARACTER-18B7E;3CHARACTER-18B7F
3CHARACTER-18B80;3CHARACTER-18B81;3CHARACTER-18B82;3CHARACTER-18B83;3CHARACTER-18B84
3CHARACTER-18B85;3CHARACTER-18B86;3CHARACTER-18B87;3CHARACTER-18B88;3CHARACTER-18B89
3CHARACTER-18B8A;3CHARACTER-18B8B;3CHARACTER-18B8C;3CHARACTER-18B8D;3CHARACTER-18B8E
3CHARACTER-18B8F;3CHARACTER-18B90;3CHARACTER-18B91;3CHARACTER-18B92;3CHARACTER-18B93
3CHARACTER-18B94;3CHARACTER-18B95;3CHARACTER-18B96;3CHARACTER-18B97;3CHARACTER-18B98
3CHARACTER-18B99;3CHARACTER-18B9A;3CHARACTER-18B9B;3CHARACTER-18B9C;3CHARACTER-18B9D
3CHARACTER-18B9E;3CHARACTER-18B9F;3CHARACTER-18BA0;3CHARACTER-18BA1;3CHARACTER-18BA2
3CHARACTER-18BA3;3CHARACTER-18BA4;3CHARACTER-18BA5;3CHARACTER-18BA6;3CHARACTER-18BA7
3CHARACTER-18BA8;3CHARACTER-18BA9;3CHARACTER-18BAA;3CHARACTER-18BAB;3CHARACTER-18BAC
3CHARACTER-18BAD;3CHARACTER-18BAE;3CHARACTER-18BAF;3CHARACTER-18BB0;3CHARACTER-18BB1
3CHARACTER-18BB2;3CHARACTER-18BB3;3CHARACTER-18BB4;3CHARACTER-18BB5;3CHARACTER-18BB6
3CHARACTER-18BB7;3CHARACTER-18BB8;3CHARACTER-18BB9;3CHARACTER-18BBA;3CHARACTER-18BBB
3CHARACTER-18BBC;3CHARACTER-18BBD;3CHARACTER-18BBE;3CHARACTER-18BBF;3CHARACTER-18BC0
3CHARACTER-18BC1;3CHARACTER-18BC2;3CHARACTER-18BC3;3CHARACTER-18BC4;3CHARACTER-18BC5
3CHARACTER-18BC6;3CHARACTER-18BC7;3CHARACTER-18BC8;3CHARACTER-18BC9;3CHARACTER-18BCA
3CHARACTER-18BCB;3CHARACTER-18BCC;3CHARACTER-18BCD;3CHARACTER-18BCE;3CHARACTER-18BCF
3CHARACTER-18BD0;3CHARACTER-18BD1;3CHARACTER-18BD2;3CHARACTER-18BD3;3CHARACTER-18BD4
3CHARACTER-18BD5;3CHARACTER-18BD6;3CHARACTER-18BD7;3CHARACTER-18BD8;3CHARACTER-18BD9
3CHARACTER-18BDA;3CHARACTER-18BDB;3CHARACTER-18BDC;3CHARACTER-18BDD;3CHARACTER-18BDE
3CHARACTER-18BDF;3CHARACTER-18BE0;3CHARACTER-18BE1;3CHARACTER-18BE2;3CHARACTER-18BE3
3CHARACTER-18BE4;3CHARACTER-18BE5;3CHARACTER-18BE6;3CHARACTER-18BE7;3CHARACTER-18BE8
3CHARACTER-18BE9;3CHARACTER-18BEA;3CHARACTER-18BEB;3CHARACTER-18BEC;3CHARACTER-18BED
3CHARACTER-18BEE;3CHARACTER-18BEF;3CHARACTER-18BF0;3CHARACTER-18BF1;3CHARACTER-18BF2
3CHARACTER-18BF3;3CHARACTER-18BF4;3CHARACTER-18BF5;3CHARACTER-18BF6;3CHARACTER-18BF7
3CHARACTER-18BF8;3CHARACTER-18BF9;3CHARACTER-18BFA;3CHARACTER-18BFB;3CHARACTER-18BFC
3CHARACTER-18BFD;3CHARACTER-18BFE;3CHARACTER-18BFF;3CHARACTER-18C00;3CHARACTER-18C01
3CHARACTER-18C02;3CHARACTER-18C03;3CHARACTER-18C04;3CHARACTER-18C05;3CHARACTER-18C06
3CHARACTER-18C07;3CHARACTER-18C08;3CHARACTER-18C09;3CHARACTER-18C0A;3CHARACTER-18C0B
3CHARACTER-18C0C;3CHARACTER-18C0D;3CHARACTER-18C0E;3CHARACTER-18C0F;3CHARACTER-18C10
3CHARACTER-18C11;3CHARACTER-18C12;3CHARACTER-18C13;3CHARACTER-18C14;3CHARACTER-18C15
3CHARACTER-18C16;3CHARACTER-18C17;3CHARACTER-18C18;3CHARACTER-18C19;3CHARACTER-18C1A
3CHARACTER-18C1B;3CHARACTER-18C1C;3CHARACTER-18C1D;3CHARACTER-18C1E;3CHARACTER-18C1F
3CHARACTER-18C20;3CHARACTER-18C21;3CHARACTER-18C22;3CHARACTER-18C23;3CHARACTER-18C24
3CHARACTER-18C25;3CHARACTER-18C26;3CHARACTER-18C27;3CHARACTER-18C28;3CHARACTER-18C29
3CHARACTER-18C2A;3CHARACTER-18C2B;3CHARACTER-18C2C;3CHARACTER-18C2D;3CHARACTER-18C2E
3CHARACTER-18C2F;3CHARACTER-18C30;3CHARACTER-18C31;3CHARACTER-18C32;3CHARACTER-18C33
3CHARACTER-18C34;3CHARACTER-18C35;3CHARACTER-18C36;3CHARACTER-18C37;3CHARACTER-18C38
3CHARACTER-18C39;3CHARACTER-18C3A;3CHARACTER-18C3B;3CHARACTER-18C3C;3CHARACTER-18C3D
3CHARACTER-18C3E;3CHARACTER-18C3F;3CHARACTER-18C40;3CHARACTER-18C41;3CHARACTER-18C42
3CHARACTER-18C43;3CHARACTER-18C44;3CHARACTER-18C45;3CHARACTER-18C46;3CHARACTER-18C47
3CHARACTER-18C48;3CHARACTER-18C49;3CHARACTER-18C4A;3CHARACTER-18C4B;3CHARACTER-18C4C
3CHARACTER-18C4D;3CHARACTER-18C4E;3CHARACTER-18C4F;3CHARACTER-18C50;3CHARACTER-18C51
3CHARACTER-18C52;3CHARACTER-18C53;3CHARACTER-18C54;3CHARACTER-18C55;3CHARACTER-18C56
3CHARACTER-18C57;3CHARACTER-18C58;3CHARACTER-18C59;3CHARACTER-18C5A;3CHARACTER-18C5B
3CHARACTER-18C5C;3CHARACTER-18C5D;3CHARACTER-18C5E;3CHARACTER-18C5F;3CHARACTER-18C60
3CHARACTER-18C61;3CHARACTER-18C62;3CHARACTER-18C63;3CHARACTER-18C64;3CHARACTER-18C65
3CHARACTER-18C66;3CHARACTER-18C67;3CHARACTER-18C68;3CHARACTER-18C69;3CHARACTER-18C6A
3CHARACTER-18C6B;3CHARACTER-18C6C;3CHARACTER-18C6D;3CHARACTER-18C6E;3CHARACTER-18C6F
3CHARACTER-18C70;3CHARACTER-18C71;3CHARACTER-18C72;3CHARACTER-18C73;3CHARACTER-18C74
3CHARACTER-18C75;3CHARACTER-18C76;3CHARACTER-18C77;3CHARACTER-18C78;3CHARACTER-18C79
3CHARACTER-18C7A;3CHARACTER-18C7B;3CHARACTER-18C7C;3CHARACTER-18C7D;3CHARACTER-18C7E
3CHARACTER-18C7F;3CHARACTER-18C80;3CHARACTER-18C81;3CHARACTER-18C82;3CHARACTER-18C83
3CHARACTER-18C84;3CHARACTER-18C85;3CHARACTER-18C86;3CHARACTER-18C87;3CHARACTER-18C88
3CHARACTER-18C89;3CHARACTER-18C8A;3CHARACTER-18C8B;3CHARACTER-18C8C;3CHARACTER-18C8D
3CHARACTER-18C8E;3CHARACTER-18C8F;3CHARACTER-18C90;3CHARACTER-18C91;3CHARACTER-18C92
3CHARACTER-18C93;3CHARACTER-18C94;3CHARACTER-18C95;3CHARACTER-18C96;3CHARACTER-18C97
3CHARACTER-18C98;3CHARACTER-18C99;3CHARACTER-18C9A;3CHARACTER-18C9B;3CHARACTER-18C9C
3CHARACTER-18C9D;3CHARACTER-18C9E;3CHARACTER-18C9F;3CHARACTER-18CA0;3CHARACTER-18CA1
3CHARACTER-18CA2;3CHARACTER-18CA3;3CHARACTER-18CA4;3CHARACTER-18CA5;3CHARACTER-18CA6
3CHARACTER-18CA7;3CHARACTER-18CA8;3CHARACTER-18CA9;3CHARACTER-18CAA;3CHARACTER-18CAB
3CHARACTER-18CAC;3CHARACTER-18CAD;3CHARACTER-18CAE;3CHARACTER-18CAF;3CHARACTER-18CB0
3CHARACTER-18CB1;3CHARACTER-18CB2;3CHARACTER-18CB3;3CHARACTER-18CB4;3CHARACTER-18CB5
3CHARACTER-18CB6;3CHARACTER-18CB7;3CHARACTER-18CB8;3CHARACTER-18CB9;3CHARACTER-18CBA
3CHARACTER-18CBB;3CHARACTER-18CBC;3CHARACTER-18CBD;3CHARACTER-18CBE;3CHARACTER-18CBF
3CHARACTER-18CC0;3CHARACTER-18CC1;3CHARACTER-18CC2;3CHARACTER-18CC3;3CHARACTER-18CC4
3CHARACTER-18CC5;3CHARACTER-18CC6;3CHARACTER-18CC7;3CHARACTER-18CC8;3CHARACTER-18CC9
3CHARACTER-18CCA;3CHARACTER-18CCB;3CHARACTER-18CCC;3CHARACTER-18CCD;3CHARACTER-18CCE
3CHARACTER-18CCF;3CHARACTER-18CD0;3CHARACTER-18CD1;3CHARACTER-18CD2;3CHARACTER-18CD3
3CHARACTER-18CD4;3CHARACTER-18CD5;1AFF0:0KATAKANA LETTER MINNAN TONE-2;3TONE-3;3TONE-4;3TONE-5
1AFF5:3TONE-7;3TONE-8;3NASALIZED TONE-1;4TONE-2;4TONE-3;4TONE-4;4TONE-5;1AFFD:4TONE-7;4TONE-8
1B000:2ARCHAIC E;0HIRAGANA LETTER ARCHAIC YE;0HENTAIGANA LETTER A-1;2A-2;2A-3;2A-WO;2I-1;2I-2
2I-3;2I-4;2U-1;2U-2;2U-3;2U-4;2U-5;2E-2;2E-3;2E-4;2E-5;2E-6;2O-1;2O-2;2O-3;2KA-1;2KA-2;2KA-3
2KA-4;2KA-5;2KA-6;2KA-7;2KA-8;2KA-9;2KA-10;2KA-11;2KA-KE;2KI-1;2KI-2;2KI-3;2KI-4;2KI-5;2KI-6
2KI-7;2KI-8;2KU-1;2KU-2;2KU-3;2KU-4;2KU-5;2KU-6;2KU-7;2KE-1;2KE-2;2KE-3;2KE-4;2KE-5;2KE-6;2KO-1
2KO-2;2KO-3;2KO-KI;2SA-1;2SA-2;2SA-3;2SA-4;2SA-5;2SA-6;2SA-7;2SA-8;2SI-1;2SI-2;2SI-3;2SI-4;2SI-5
2SI-6;2SU-1;2SU-2;2SU-3;2SU-4;2SU-5;2SU-6;2SU-7;2SU-8;2SE-1;2SE-2;2SE-3;2SE-4;2SE-5;2SO-1;2SO-2
2SO-3;2SO-4;2SO-5;2SO-6;2SO-7;2TA-1;2TA-2;2TA-3;2TA-4;2TI-1;2TI-2;2TI-3;2TI-4;2TI-5;2TI-6;2TI-7
2TU-1;2TU-2;2TU-3;2TU-4;2TU-TO;2TE-1;2TE-2;2TE-3;2TE-4;2TE-5;2TE-6;2TE-7;2TE-8;2TE-9;2TO-1;2TO-2
2TO-3;2TO-4;2TO-5;2TO-6;2TO-RA;2NA-1;2NA-2;2NA-3;2NA-4;2NA-5;2NA-6;2NA-7;2NA-8;2NA-9;2NI-1;2NI-2
2NI-3;2NI-4;2NI-5;2NI-6;2NI-7;2NI-TE;2NU-1;2NU-2;2NU-3;2NE-1;2NE-2;2NE-3;2NE-4;2NE-5;2NE-6
2NE-KO;2NO-1;2NO-2;2NO-3;2NO-4;2NO-5;2HA-1;2HA-2;2HA-3;2HA-4;2HA-5;2HA-6;2HA-7;2HA-8;2HA-9
2HA-10;2HA-11;2HI-1;2HI-2;2HI-3;2HI-4;2HI-5;2HI-6;2HI-7;2HU-1;2HU-2;2HU-3;2HE-1;2HE-2;2HE-3
2HE-4;2HE-5;2HE-6;2HE-7;2HO-1;2HO-2;2HO-3;2HO-4;2HO-5;2HO-6;2HO-7;2HO-8;2MA-1;2MA-2;2MA-3;2MA-4
2MA-5;2MA-6;2MA-7;2MI-1;2MI-2;2MI-3;2MI-4;2MI-5;2MI-6;2MI-7;2MU-1;2MU-2;2MU-3;2MU-4;2ME-1;2ME-2
2ME-MA;2MO-1;2MO-2;2MO-3;2MO-4;2MO-5;2MO-6;2YA-1;2YA-2;2YA-3;2YA-4;2YA-5;2YA-YO;2YU-1;2YU-2
2YU-3;2YU-4;2YO-1;2YO-2;2YO-3;2YO-4;2YO-5;2YO-6;2RA-1;2RA-2;2RA-3;2RA-4;2RI-1;2RI-2;2RI-3;2RI-4
2RI-5;2RI-6;2RI-7;2RU-1;2RU-2;2RU-3;2RU-4;2RU-5;2RU-6;2RE-1;2RE-2;2RE-3;2RE-4;2RO-1;2RO-2;2RO-3
2RO-4;2RO-5;2RO-6;2WA-1;2WA-2;2WA-3;2WA-4;2WA-5;2WI-1;2WI-2;2WI-3;2WI-4;2WI-5;2WE-1;2WE-2;2WE-3
2WE-4;2WO-1;2WO-2;2WO-3;2WO-4;2WO-5;2WO-6;2WO-7;2N-MU-MO-1;2N-MU-MO-2
0HIRAGANA LETTER ARCHAIC WU;0KATAKANA LETTER ARCHAIC YI;3YE;3WU;1B150:0HIRAGANA LETTER SMALL WI
3WE;3WO;1B164:0KATAKANA LETTER SMALL WI;3WE;3WO;3N;1B170:0NUSHU CHARACTER-1B170;1CHARACTER-1B171
1CHARACTER-1B172;1CHARACTER-1B173;1CHARACTER-1B174;1CHARACTER-1B175;1CHARACTER-1B176
1CHARACTER-1B177;1CHARACTER-1B178;1CHARACTER-1B179;1CHARACTER-1B17A;1CHARACTER-1B17B
1CHARACTER-1B17C;1CHARACTER-1B17D;1CHARACTER-1B17E;1CHARACTER-1B17F;1CHARACTER-1B180
1CHARACTER-1B181;1CHARACTER-1B182;1CHARACTER-1B183;1CHARACTER-1B184;1CHARACTER-1B185
1CHARACTER-1B186;1CHARACTER-1B187;1CHARACTER-1B188;1CHARACTER-1B189;1CHARACTER-1B18A
1CHARACTER-1B18B;1CHARACTER-1B18C;1CHARACTER-1B18D;1CHARACTER-1B18E;1CHARACTER-1B18F
1CHARACTER-1B190;1CHARACTER-1B191;1CHARACTER-1B192;1CHARACTER-1B193;1CHARACTER-1B194
1CHARACTER-1B195;1CHARACTER-1B196;1CHARACTER-1B197;1CHARACTER-1B198;1CHARACTER-1B199
1CHARACTER-1B19A;1CHARACTER-1B19B;1CHARACTER-1B19C;1CHARACTER-1B19D;1CHARACTER-1B19E
1CHARACTER-1B19F;1CHARACTER-1B1A0;1CHARACTER-1B1A1;1CHARACTER-1B1A2;1CHARACTER-1B1A3
1CHARACTER-1B1A4;1CHARACTER-1B1A5;1CHARACTER-1B1A6;1CHARACTER-1B1A7;1CHARACTER-1B1A8
1CHARACTER-1B1A9;1CHARACTER-1B1AA;1CHARACTER-1B1AB;1CHARACTER-1B1AC;1CHARACTER-1B1AD
1CHARACTER-1B1AE;1CHARACTER-1B1AF;1CHARACTER-1B1B0;1CHARACTER-1B1B1;1CHARACTER-1B1B2
1CHARACTER-1B1B3;1CHARACTER-1B1B4;1CHARACTER-1B1B5;1CHARACTER-1B1B6;1CHARACTER-1B1B7
1CHARACTER-1B1B8;1CHARACTER-1B1B9;1CHARACTER-1B1BA;1CHARACTER-1B1BB;1CHARACTER-1B1BC
1CHARACTER-1B1BD;1CHARACTER-1B1BE;1CHARACTER-1B1BF;1CHARACTER-1B1C0;1CHARACTER-1B1C1
1CHARACTER-1B1C2;1CHARACTER-1B1C3;1CHARACTER-1B1C4;1CHARACTER-1B1C5;1CHARACTER-1B1C6
1CHARACTER-1B1C7;1CHARACTER-1B1C8;1CHARACTER-1B1C9;1CHARACTER-1B1CA;1CHARACTER-1B1CB
1CHARACTER-1B1CC;1CHARACTER-1B1CD;1CHARACTER-1B1CE;1CHARACTER-1B1CF;1CHARACTER-1B1D0
1CHARACTER-1B1D1;1CHARACTER-1B1D2;1CHARACTER-1B1D3;1CHARACTER-1B1D4;1CHARACTER-1B1D5
1CHARACTER-1B1D6;1CHARACTER-1B1D7;1CHARACTER-1B1D8;1CHARACTER-1B1D9;1CHARACTER-1B1DA
1CHARACTER-1B1DB;1CHARACTER-1B1DC;1CHARACTER-1B1DD;1CHARACTER-1B1DE;1CHARACTER-1B1DF
1CHARACTER-1B1E0;1CHARACTER-1B1E1;1CHARACTER-1B1E2;1CHARACTER-1B1E3;1CHARACTER-1B1E4
1CHARACTER-1B1E5;1CHARACTER-1B1E6;1CHARACTER-1B1E7;1CHARACTER-1B1E8;1CHARACTER-1B1E9
1CHARACTER-1B1EA;1CHARACTER-1B1EB;1CHARACTER-1B1EC;1CHARACTER-1B1ED;1CHARACTER-1B1EE
1CHARACTER-1B1EF;1CHARACTER-1B1F0;1CHARACTER-1B1F1;1CHARACTER-1B1F2;1CHARACTER-1B1F3
1CHARACTER-1B1F4;1CHARACTER-1B1F5;1CHARACTER-1B1F6;1CHARACTER-1B1F7;1CHARACTER-1B1F8
1CHARACTER-1B1F9;1CHARACTER-1B1FA;1CHARACTER-1B1FB;1CHARACTER-1B1FC;1CHARACTER-1B1FD
1CHARACTER-1B1FE;1CHARACTER-1B1FF;1CHARACTER-1B200;1CHARACTER-1B201;1CHARACTER-1B202
1CHARACTER-1B203;1CHARACTER-1B204;1CHARACTER-1B205;1CHARACTER-1B206;1CHARACTER-1B207
1CHARACTER-1B208;1CHARACTER-1B209;1CHARACTER-1B20A;1CHARACTER-1B20B;1CHARACTER-1B20C
1CHARACTER-1B20D;1CHARACTER-1B20E;1CHARACTER-1B20F;1CHARACTER-1B210;1CHARACTER-1B211
1CHARACTER-1B212;1CHARACTER-1B213;1CHARACTER-1B214;1CHARACTER-1B215;1CHARACTER-1B216
1CHARACTER-1B217;1CHARACTER-1B218;1CHARACTER-1B219;1CHARACTER-1B21A;1CHARACTER-1B21B
1CHARACTER-1B21C;1CHARACTER-1B21D;1CHARACTER-1B21E;1CHARACTER-1B21F;1CHARACTER-1B220
1CHARACTER-1B221;1CHARACTER-1B222;1CHARACTER-1B223;1CHARACTER-1B224;1CHARACTER-1B225
1CHARACTER-1B226;1CHARACTER-1B227;1CHARACTER-1B228;1CHARACTER-1B229;1CHARACTER-1B22A
1CHARACTER-1B22B;1CHARACTER-1B22C;1CHARACTER-1B22D;1CHARACTER-1B22E;1CHARACTER-1B22F
1CHARACTER-1B230;1CHARACTER-1B231;1CHARACTER-1B232;1CHARACTER-1B233;1CHARACTER-1B234
1CHARACTER-1B235;1CHARACTER-1B236;1CHARACTER-1B237;1CHARACTER-1B238;1CHARACTER-1B239
1CHARACTER-1B23A;1CHARACTER-1B23B;1CHARACTER-1B23C;1CHARACTER-1B23D;1CHARACTER-1B23E
1CHARACTER-1B23F;1CHARACTER-1B240;1CHARACTER-1B241;1CHARACTER-1B242;1CHARACTER-1B243
1CHARACTER-1B244;1CHARACTER-1B245;1CHARACTER-1B246;1CHARACTER-1B247;1CHARACTER-1B248
1CHARACTER-1B249;1CHARACTER-1B24A;1CHARACTER-1B24B;1CHARACTER-1B24C;1CHARACTER-1B24D
1CHARACTER-1B24E;1CHARACTER-1B24F;1CHARACTER-1B250;1CHARACTER-1B251;1CHARACTER-1B252
1CHARACTER-1B253;1CHARACTER-1B254;1CHARACTER-1B255;1CHARACTER-1B256;1CHARACTER-1B257
1CHARACTER-1B258;1CHARACTER-1B259;1CHARACTER-1B25A;1CHARACTER-1B25B;1CHARACTER-1B25C
1CHARACTER-1B25D;1CHARACTER-1B25E;1CHARACTER-1B25F;1CHARACTER-1B260;1CHARACTER-1B261
1CHARACTER-1B262;1CHARACTER-1B263;1CHARACTER-1B264;1CHARACTER-1B265;1CHARACTER-1B266
1CHARACTER-1B267;1CHARACTER-1B268;1CHARACTER-1B269;1CHARACTER-1B26A;1CHARACTER-1B26B
1CHARACTER-1B26C;1CHARACTER-1B26D;1CHARACTER-1B26E;1CHARACTER-1B26F;1CHARACTER-1B270
1CHARACTER-1B271;1CHARACTER-1B272;1CHARACTER-1B273;1CHARACTER-1B274;1CHARACTER-1B275
1CHARACTER-1B276;1CHARACTER-1B277;1CHARACTER-1B278;1CHARACTER-1B279;1CHARACTER-1B27A
1CHARACTER-1B27B;1CHARACTER-1B27C;1CHARACTER-1B27D;1CHARACTER-1B27E;1CHARACTER-1B27F
1CHARACTER-1B280;1CHARACTER-1B281;1CHARACTER-1B282;1CHARACTER-1B283;1CHARACTER-1B284
1CHARACTER-1B285;1CHARACTER-1B286;1CHARACTER-1B287;1CHARACTER-1B288;1CHARACTER-1B289
1CHARACTER-1B28A;1CHARACTER-1B28B;1CHARACTER-1B28C;1CHARACTER-1B28D;1CHARACTER-1B28E
1CHARACTER-1B28F;1CHARACTER-1B290;1CHARACTER-1B291;1CHARACTER-1B292;1CHARACTER-1B293
1CHARACTER-1B294;1CHARACTER-1B295;1CHARACTER-1B296;1CHARACTER-1B297;1CHARACTER-1B298
1CHARACTER-1B299;1CHARACTER-1B29A;1CHARACTER-1B29B;1CHARACTER-1B29C;1CHARACTER-1B29D
1CHARACTER-1B29E;1CHARACTER-1B29F;1CHARACTER-1B2A0;1CHARACTER-1B2A1;1CHARACTER-1B2A2
1CHARACTER-1B2A3;1CHARACTER-1B2A4;1CHARACTER-1B2A5;1CHARACTER-1B2A6;1CHARACTER-1B2A7
1CHARACTER-1B2A8;1CHARACTER-1B2A9;1CHARACTER-1B2AA;1CHARACTER-1B2AB;1CHARACTER-1B2AC
1CHARACTER-1B2AD;1CHARACTER-1B2AE;1CHARACTER-1B2AF;1CHARACTER-1B2B0;1CHARACTER-1B2B1
1CHARACTER-1B2B2;1CHARACTER-1B2B3;1CHARACTER-1B2B4;1CHARACTER-1B2B5;1CHARACTER-1B2B6
1CHARACTER-1B2B7;1CHARACTER-1B2B8;1CHARACTER-1B2B9;1CHARACTER-1B2BA;1CHARACTER-1B2BB
1CHARACTER-1B2BC;1CHARACTER-1B2BD;1CHARACTER-1B2BE;1CHARACTER-1B2BF;1CHARACTER-1B2C0
1CHARACTER-1B2C1;1CHARACTER-1B2C2;1CHARACTER-1B2C3;1CHARACTER-1B2C4;1CHARACTER-1B2C5
1CHARACTER-1B2C6;1CHARACTER-1B2C7;1CHARACTER-1B2C8;1CHARACTER-1B2C9;1CHARACTER-1B2CA
1CHARACTER-1B2CB;1CHARACTER-1B2CC;1CHARACTER-1B2CD;1CHARACTER-1B2CE;1CHARACTER-1B2CF
1CHARACTER-1B2D0;1CHARACTER-1B2D1;1CHARACTER-1B2D2;1CHARACTER-1B2D3;1CHARACTER-1B2D4
1CHARACTER-1B2D5;1CHARACTER-1B2D6;1CHARACTER-1B2D7;1CHARACTER-1B2D8;1CHARACTER-1B2D9
1CHARACTER-1B2DA;1CHARACTER-1B2DB;1CHARACTER-1B2DC;1CHARACTER-1B2DD;1CHARACTER-1B2DE
1CHARACTER-1B2DF;1CHARACTER-1B2E0;1CHARACTER-1B2E1;1CHARACTER-1B2E2;1CHARACTER-1B2E3
1CHARACTER-1B2E4;1CHARACTER-1B2E5;1CHARACTER-1B2E6;1CHARACTER-1B2E7;1CHARACTER-1B2E8
1CHARACTER-1B2E9;1CHARACTER-1B2EA;1CHARACTER-1B2EB;1CHARACTER-1B2EC;1CHARACTER-1B2ED
1CHARACTER-1B2EE;1CHARACTER-1B2EF;1CHARACTER-1B2F0;1CHARACTER-1B2F1;1CHARACTER-1B2F2
1CHARACTER-1B2F3;1CHARACTER-1B2F4;1CHARACTER-1B2F5;1CHARACTER-1B2F6;1CHARACTER-1B2F7
1CHARACTER-1B2F8;1CHARACTER-1B2F9;1CHARACTER-1B2FA;1CHARACTER-1B2FB;1BC00:0DUPLOYAN LETTER H;2X
2P;2T;2F;2K;2L;2B;2D;2V;2G;2R;2P N;2D S;2F N;2K M;2R S;2TH;2SLOAN DH;2DH;2KK;2SLOAN J;2HL;2LH
2RH;2M;2N;2J;2S;2M N;2N M;2J M;2S J;2M WITH DOT;2N WITH DOT;2J WITH DOT;4DOTS INSIDE AND ABOVE
2S WITH DOT;5BELOW;2M S;2N S;2J S;2S S;2M N S;2N M S;2J M S;2S J S;2J S WITH DOT;3N;4S;2S T;4R
3P;4R;2T S;3R S;2W;2WH;2W R;2S N;3M;2K R S;2G R S;2S K;4R;2A;2SLOAN OW;2OA;2O;2AOU;2I;2E;2IE
2SHORT I;2UI;2EE;2SLOAN EH;2ROMANIAN I;2SLOAN EE;2LONG I;2YE;2U;2EU;2XW;2U N;2LONG U;2ROMANIAN U
2UH;2SLOAN U;2OOH;2OW;2OU;2WA;2WO;2WI;2WEI;2WOW;2NASAL U;3O;3I;3A;2PERNIN AN;3AM;2SLOAN EN;3AN
3ON;2VOCALIC M;1BC70:1AFFIX LEFT HORIZONTAL SECANT;2MID HORIZONTAL SECANT
2RIGHT HORIZONTAL SECANT;2LOW VERTICAL SECANT;2MID VERTICAL SECANT;2HIGH VERTICAL SECANT
2ATTACHED SECANT;3LEFT-TO-RIGHT SECANT;3TANGENT;3TAIL;3E HOOK;3I HOOK;3TANGENT HOOK
1BC80:2HIGH ACUTE;3TIGHT ACUTE;3GRAVE;3LONG GRAVE;3DOT;3CIRCLE;3LINE;3WAVE;3VERTICAL
1BC90:2LOW ACUTE;3TIGHT ACUTE;3GRAVE;3LONG GRAVE;3DOT;3CIRCLE;3LINE;3WAVE;3VERTICAL;3ARROW
1BC9C:1SIGN O WITH CROSS;1THICK LETTER SELECTOR;1DOUBLE MARK;1PUNCTUATION CHINOOK FULL STOP
0SHORTHAND FORMAT LETTER OVERLAP;2CONTINUING OVERLAP;2DOWN STEP;2UP STEP
1CF00:0ZNAMENNY COMBINING MARK GORAZDO NIZKO S KRYZHEM ON LEFT;3NIZKO S KRYZHEM ON LEFT
3TSATA ON LEFT;3GORAZDO NIZKO ON LEFT;3NIZKO ON LEFT;3SREDNE ON LEFT;3MALO POVYSHE ON LEFT
3POVYSHE ON LEFT;3VYSOKO ON LEFT;3MALO POVYSHE S KHOKHLOM ON LEFT;3POVYSHE S KHOKHLOM ON LEFT
3VYSOKO S KHOKHLOM ON LEFT;3GORAZDO NIZKO S KRYZHEM ON RIGHT;3NIZKO S KRYZHEM ON RIGHT
3TSATA ON RIGHT;3GORAZDO NIZKO ON RIGHT;3NIZKO ON RIGHT;3SREDNE ON RIGHT;3MALO POVYSHE ON RIGHT
3POVYSHE ON RIGHT;3VYSOKO ON RIGHT;3MALO POVYSHE S KHOKHLOM ON RIGHT
3POVYSHE S KHOKHLOM ON RIGHT;3VYSOKO S KHOKHLOM ON RIGHT;3TSATA S KRYZHEM
3MALO POVYSHE S KRYZHEM;3STRANNO MALO POVYSHE;3POVYSHE S KRYZHEM;4STRANNO;3VYSOKO S KRYZHEM
3MALO POVYSHE STRANNO;3GORAZDO VYSOKO;3ZELO;3ON;3RAVNO;3TIKHAYA;3BORZAYA;3UDARKA;3PODVERTKA
3LOMKA;3KUPNAYA;3KACHKA;3ZEVOK;3SKOBA;3RAZSEKA;3KRYZH ON LEFT;1CF30:2TONAL RANGE MARK MRACHNO
5SVETLO;5TRESVETLO;2MARK ZADERZHKA;3DEMESTVENNY ZADERZHKA;3OTSECHKA;3PODCHASHIE
4WITH VERTICAL STROKE;3CHASHKA;4POLNAYA;3OBLACHKO;3SOROCHYA NOZHKA;3TOCHKA;3DVOETOCHIE
2ATTACHING VERTICAL OMET;2MARK CURVED OMET;3KRYZH;2LOWER TONAL RANGE INDICATOR
1PRIZNAK MODIFIER LEVEL-2;3LEVEL-3;3DIRECTION FLIP;3KRYZH;3ROG;1CF50:1NEUME KRYUK;3TIKHY
2PARAKLIT;2DVA V CHELNU;2KLYUCH;2ZANOZHEK;2STOPITSA;3S OCHKOM;2PEREVODKA;3NEPOSTOYANNAYA
2STOPITSA WITH SOROCHYA NOZHKA;2CHELYUSTKA;2PALKA;2ZAPYATAYA;2GOLUBCHIK BORZY;3TIKHY;3MRACHNY
3SVETLY;3TRESVETLY;2VRAKHIYA PROSTAYA;3MRACHNAYA;3SVETLAYA;3TRESVETLAYA;3KLYUCHEVAYA PROSTAYA
4MRACHNAYA;4SVETLAYA;4TRESVETLAYA;2DOUBLE ZAPYATAYA;2REVERSED CHELYUSTKA;2DERBITSA;2KHAMILO
2CHASHKA;2PODCHASHIE;2SKAMEYTSA MRACHNAYA;3SVETLAYA;3TRESVETLAYA;3TIKHAYA;2DEMESTVENNY KLYUCH
2SKAMEYTSA KLYUCHEVAYA SVETLAYA;3KLYUCHENEPOSTOYANNAYA;3KLYUCHEVAYA TIKHAYA
3DVOECHELNAYA PROSTAYA;4SVETLAYA;4NEPOSTOYANNAYA;4KLYUCHEVAYA;2SLOZHITIE;3S ZAPYATOY;3ZAKRYTOE
3S KRYZHEM;2KRYZH;2ROG;2FITA;2KOBYLA;2ZMEYTSA;2STATYA;3S ZAPYATOY;4KRYZHEM;4ZAPYATOY I KRYZHEM
4KRYZHEM I ZAPYATOY;3ZAKRYTAYA;4S ZAPYATOY;3S ROGOM;4DVUMYA ZAPYATYMI;4ZAPYATOY I PODCHASHIEM
2POLKULIZMY;2STATYA NEPOSTOYANNAYA;2STRELA PROSTAYA;3MRACHNOTIKHAYA;3KRYZHEVAYA;3POLUPOVODNAYA
3POVODNAYA;3NEPOSTOYANNAYA;3KLYUCHEPOVODNAYA;3KLYUCHENEPOSTOYANNAYA;3TIKHAYA PUTNAYA
3DVOECHELNAYA;3DVOECHELNOKRYZHEVAYA;3DVOECHELNOPOVODNAYA;3DVOECHELNAYA KLYUCHEVAYA
3DVOECHELNOPOVODNAYA KLYUCHEVAYA;3GROMNAYA WITH SINGLE ZAPYATAYA
3GROMOPOVODNAYA WITH SINGLE ZAPYATAYA;3GROMNAYA;3GROMOPOVODNAYA;4WITH DOUBLE ZAPYATAYA
3GROMOKRYZHEVAYA;4POVODNAYA;2MECHIK;3POVODNY;3KLYUCHEVOY;3KLYUCHEPOVODNY;3KLYUCHENEPOSTOYANNY
2STRELA TRYASOGLASNAYA;3TRYASOPOVODNAYA;3TRYASOSTRELNAYA;2OSOKA;3SVETLAYA;3TRESVETLAYA
3KRYUKOVAYA SVETLAYA;3KLYUCHEVAYA SVETLAYA;4NEPOSTOYANNAYA;2STRELA KRYUKOVAYA;4POVODNAYA
4GROMNAYA WITH SINGLE ZAPYATAYA;4GROMOPOVODNAYA WITH SINGLE ZAPYATAYA;4GROMNAYA;4GROMOPOVODNAYA
5WITH DOUBLE ZAPYATAYA;4GROMOKRYZHEVAYA;5POVODNAYA;4TRYASKA;2KUFISMA;2OBLAKO;2DUDA;2NEMKA;2PAUK"

end LuaBinder.Text.Table
